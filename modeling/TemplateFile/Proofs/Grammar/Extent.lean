import TemplateFile.Proofs.Grammar.Acceptance

namespace TemplateFile

/-!
# How far a file keeps to the grammar

The extent of a file is everything before its first misplaced token, or
everything before its end if no token is misplaced.  A file has exactly one
extent, and it is a matter of the kinds of the tokens alone.

The extent is as much of a file as any rule comes to see, and so all that a
parse does is told in terms of it: of the templates among its tokens and of the
namespace that is declared there.
-/

namespace Sentence

theorem Viable.of_append {left right : List TokenKind} (viable : Viable (left ++ right)) : Viable left := by
  rcases viable with ⟨rest, member⟩
  exact ⟨right ++ rest, by rwa [← List.append_assoc]⟩

theorem viable_of_mem_file {kinds : List TokenKind} (member : kinds ∈ file) : Viable kinds :=
  ⟨[], by rwa [List.append_nil]⟩

end Sentence

namespace TokenStream

variable {stream : TokenStream} {before other : List Token} {token otherToken : Token}

/-- A token that no sentence has in its place, while sentences do begin like
the tokens before it. -/
structure FirstMisplaced (stream : TokenStream) (before : List Token) (token : Token) : Prop where
  parts : ∃ later, stream.toList = before ++ token :: later
  viable : Sentence.Viable (kindsOf before)
  notViable : ¬ Sentence.Viable (kindsOf before ++ [token.kind])

/-- The tokens before the first misplaced one, and that one; or all the tokens
before the end of the file, if it is a sentence. -/
inductive Extent (stream : TokenStream) : List Token -> Option Token -> Prop
  | whole (accepted : kindsOf stream.toList ∈ Sentence.file) : stream.Extent stream.pending none
  | upTo {before : List Token} {token : Token} (misplaced : stream.FirstMisplaced before token) :
      stream.Extent before (some token)

/-- A sentence cannot go on past a misplaced token. -/
theorem FirstMisplaced.not_viable_append (misplaced : stream.FirstMisplaced before token) (more : List Token) :
    ¬ Sentence.Viable (kindsOf (before ++ token :: more)) := by
  intro viable
  rw [← List.singleton_append, ← List.append_assoc, kindsOf_append, kindsOf_append] at viable
  exact misplaced.notViable viable.of_append

theorem FirstMisplaced.eq_nil_of_append (misplaced : stream.FirstMisplaced before token) {more later rest : List Token}
    (viable : Sentence.Viable (kindsOf (before ++ more))) (same : token :: later = more ++ rest) : more = [] := by
  cases more with
  | nil => rfl
  | cons first more =>
      rw [← (List.cons.inj same).1] at viable
      exact absurd viable (misplaced.not_viable_append more)

/-- There is only one first misplaced token. -/
theorem FirstMisplaced.unique (misplaced : stream.FirstMisplaced before token)
    (otherMisplaced : stream.FirstMisplaced other otherToken) : before = other ∧ token = otherToken := by
  rcases misplaced.parts with ⟨later, parts⟩
  rcases otherMisplaced.parts with ⟨otherLater, otherParts⟩
  have sameBefore : before = other := by
    -- If one of them were longer, sentences would go on past a misplaced token.
    rcases List.append_eq_append_iff.mp (parts.symm.trans otherParts) with ⟨more, longer, rest⟩ | ⟨more, longer, rest⟩
    · have nothing := misplaced.eq_nil_of_append (longer ▸ otherMisplaced.viable) rest
      rw [longer, nothing, List.append_nil]
    · have nothing := otherMisplaced.eq_nil_of_append (longer ▸ misplaced.viable) rest
      rw [longer, nothing, List.append_nil]
  subst sameBefore
  have rests := List.append_cancel_left (parts.symm.trans otherParts)
  exact ⟨rfl, (List.cons.inj rests).1⟩

theorem FirstMisplaced.not_mem_file (misplaced : stream.FirstMisplaced before token) :
    kindsOf stream.toList ∉ Sentence.file := by
  intro accepted
  rcases misplaced.parts with ⟨later, parts⟩
  rw [parts] at accepted
  exact misplaced.not_viable_append later (Sentence.viable_of_mem_file accepted)

/-- A file has only one extent. -/
theorem Extent.unique {offender otherOffender : Option Token} (extent : stream.Extent before offender)
    (otherExtent : stream.Extent other otherOffender) : before = other ∧ offender = otherOffender := by
  cases extent with
  | whole accepted =>
      cases otherExtent with
      | whole _ => exact ⟨rfl, rfl⟩
      | upTo misplaced => exact absurd accepted misplaced.not_mem_file
  | upTo misplaced =>
      cases otherExtent with
      | whole accepted => exact absurd accepted misplaced.not_mem_file
      | upTo otherMisplaced =>
          rcases misplaced.unique otherMisplaced with ⟨rfl, rfl⟩
          exact ⟨rfl, rfl⟩

end TokenStream

/-! ## What the tokens of an extent declare -/

/-- The template that a token is. -/
def TemplateForm.ofToken? (token : Token) : Option TemplateForm :=
  match isTemplate : token.kind with
  | .template kind => some ⟨kind, token, isTemplate⟩
  | _ => none

/-- The templates among tokens. -/
def templatesIn (tokens : List Token) : List TemplateForm := tokens.filterMap TemplateForm.ofToken?

/-- The name in the first namespace tag among tokens. -/
def namespaceIn (tokens : List Token) : Option String :=
  ((tokens.dropWhile fun token => token.kind != .header .namespaceTag)[1]?).map Token.value

theorem TemplateForm.ofToken?_whole (form : TemplateForm) : ofToken? form.whole.token = some form := by
  rcases form with ⟨kind, token, hasKind⟩
  unfold ofToken?
  split
  · next other isTemplate =>
      cases hasKind.symm.trans isTemplate
      rfl
  · next notTemplate => exact absurd hasKind (notTemplate kind)

theorem TemplateForm.ofToken?_eq_none {token : Token} (notTemplate : token.kind.isTemplate = false) :
    ofToken? token = none := by
  unfold ofToken?
  split
  · next kind isTemplate =>
      rw [isTemplate] at notTemplate
      cases notTemplate
  · rfl

theorem templatesIn_append (left right : List Token) :
    templatesIn (left ++ right) = templatesIn left ++ templatesIn right :=
  List.filterMap_append

theorem templatesIn_eq_nil {tokens : List Token}
    (noTemplate : forall token, token ∈ tokens -> token.kind.isTemplate = false) : templatesIn tokens = [] :=
  List.filterMap_eq_nil_iff.mpr fun token member => TemplateForm.ofToken?_eq_none (noTemplate token member)

theorem templatesIn_flatMap_tokens (forms : List TemplateForm) :
    templatesIn (forms.flatMap TemplateForm.tokens) = forms := by
  induction forms with
  | nil => rfl
  | cons form forms inductionHypothesis =>
      rw [List.flatMap_cons, templatesIn_append, inductionHypothesis]
      simp only [templatesIn, TemplateForm.tokens, List.filterMap_cons, TemplateForm.ofToken?_whole, List.filterMap_nil,
        List.singleton_append]

theorem mem_of_mem_templatesIn {tokens : List Token} {form : TemplateForm} (member : form ∈ templatesIn tokens) :
    form.whole.token ∈ tokens := by
  rcases List.mem_filterMap.mp member with ⟨token, listed, isForm⟩
  unfold TemplateForm.ofToken? at isForm
  split at isForm
  · cases isForm
    exact listed
  · cases isForm

/-! ## The namespace of a form -/

/-- No token among tokens has a given kind. -/
def Lacks (kind : TokenKind) (tokens : List Token) : Prop := forall token, token ∈ tokens -> token.kind ≠ kind

section

variable {tokens rest : List Token}

theorem Lacks.flatMap {Form : Type} {kind : TokenKind} {tokensOf : Form -> List Token}
    (each : forall form, Lacks kind (tokensOf form)) (forms : List Form) : Lacks kind (forms.flatMap tokensOf) := by
  intro token member
  rcases List.mem_flatMap.mp member with ⟨form, _, inForm⟩
  exact each form token inForm

theorem Lacks.append {kind : TokenKind} (left : Lacks kind tokens) (right : Lacks kind rest) :
    Lacks kind (tokens ++ rest) := fun token member =>
  (List.mem_append.mp member).elim (left token) (right token)

theorem namespaceIn_append (lacks : Lacks (.header .namespaceTag) tokens) (rest : List Token) :
    namespaceIn (tokens ++ rest) = namespaceIn rest := by
  unfold namespaceIn
  rw [List.dropWhile_append_of_pos fun token member => bne_iff_ne.mpr (lacks token member)]

theorem namespaceIn_eq_none (lacks : Lacks (.header .namespaceTag) tokens) : namespaceIn tokens = none := by
  rw [← List.append_nil tokens, namespaceIn_append lacks]
  rfl

theorem PackageForm.lacks_namespaceTag (form : PackageForm) : Lacks (.header .namespaceTag) form.tokens := by
  simp [Lacks, tokens, TokenOf.hasKind]

theorem LocalNameForm.lacks_namespaceTag (form : LocalNameForm) : Lacks (.header .namespaceTag) form.tokens := by
  simp [Lacks, tokens, TokenOf.hasKind]

theorem AliasForm.lacks_namespaceTag (form : AliasForm) : Lacks (.header .namespaceTag) form.tokens := by
  have opening : Lacks (.header .namespaceTag) [form.opening.token, form.target.token] := by
    simp [Lacks, TokenOf.hasKind]
  have closing : Lacks (.header .namespaceTag) [form.closing.token] := by
    simp [Lacks, TokenOf.hasKind]
  exact (opening.append (.flatMap LocalNameForm.lacks_namespaceTag _)).append closing

theorem TemplateForm.lacks_namespaceTag (form : TemplateForm) : Lacks (.header .namespaceTag) form.tokens := by
  simp [Lacks, tokens, TokenOf.hasKind]

/-- The first namespace tag of a form is the only one. -/
theorem FileForm.namespaceIn_tokens (form : FileForm) : namespaceIn form.tokens = form.namespaceName := by
  rw [tokens, namespaceIn_append (.flatMap PackageForm.lacks_namespaceTag _)]
  cases tag : form.namespaceTag with
  | none =>
      have lacks := (Lacks.flatMap AliasForm.lacks_namespaceTag form.aliases).append
        (.flatMap TemplateForm.lacks_namespaceTag form.templates)
      rw [Option.toList_none, List.flatMap_nil, List.nil_append, namespaceIn_eq_none lacks, namespaceName, tag]
      rfl
  | some tag =>
      simp [namespaceIn, namespaceName, NamespaceForm.tokens, TokenOf.hasKind, tag]

end

end TemplateFile
