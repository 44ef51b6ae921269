import TemplateFile.Token.Lexeme

namespace TemplateFile

/-!
# Cutting a text into lexemes

The scanner stands either between two lexemes or inside a construct that runs
to a closing text: a comment, a documentation comment or a template.  Between
lexemes the first character decides which rule applies, `Scanner.front` states
the rules; inside a construct only its closer matters, so a template may hold
anything but its own closing tag.  Where no rule applies, one character is cut
off as an unexpected token, and a construct whose closer never comes takes the
rest of the text with it.  So every text has its lexemes, `Scanner.lexemes`.
-/

/-- What runs from an opening text to a closing one. -/
inductive Construct where
  | comment
  | docComment
  | template (kind : TemplateKind)
deriving DecidableEq, Repr

namespace Construct

/-- The text that ends the construct. -/
def closer : Construct -> List Char
  | comment => ['*', '/']
  | docComment => ['*', '/']
  | template kind => kind.closer

/-- What the construct is when it is closed. -/
def lexemeKind : Construct -> LexemeKind
  | comment => .comment
  | docComment => .docComment
  | template kind => .token (.template kind)

end Construct

namespace Scanner

/-- What stands at the front of a text: a lexeme, or the text that opens a
construct. -/
inductive Front where
  | lexeme (lexeme : Lexeme)
  | opener (construct : Construct) (text : List Char)
deriving DecidableEq, Repr

namespace Front

/-- The text of the front. -/
def text : Front -> List Char
  | lexeme piece => piece.text
  | opener _ text => text

/-- A token that is written as `text`. -/
def token (kind : TokenKind) (text : List Char) : Front := lexeme ⟨.token kind, text⟩

end Front

/-- A fixed text at the front, and what follows it. -/
def fixed? (front : List Char -> Front) (word text : List Char) : Option (Front × List Char) :=
  (Text.dropWord? word text).map fun rest => (front word, rest)

/-- The open tag of a template at the front, and what follows it.  After the
keyword come a blank, at least one more character that is not a closing brace,
and whatever else there is up to the first closing brace. -/
def openTag? (kind : TemplateKind) (text : List Char) : Option (Front × List Char) :=
  match Text.dropWord? kind.keyword text with
  | some (blank :: second :: rest) =>
      if Text.isBlank blank ∧ second ≠ '}' then
        (Text.cutAt? ['}'] rest).map fun (inside, after) =>
          (.opener (.template kind) (kind.keyword ++ blank :: second :: inside ++ ['}']), after)
      else none
  | _ => none

/-- One character that no rule accepts. -/
def single (character : Char) (rest : List Char) : Front × List Char :=
  (.token .unexpected [character], rest)

/-- The rules for what begins with an opening brace, in the order in which they
are tried. -/
def braceRules : List (List Char -> Option (Front × List Char)) :=
  [openTag? .basic,
   openTag? .delegate,
   fixed? (.token (.header .package)) HeaderTag.package.keyword,
   fixed? (.token (.header .namespaceTag)) HeaderTag.namespaceTag.keyword,
   fixed? (.token (.header .aliasTag)) HeaderTag.aliasTag.keyword]

/-- What an opening brace begins. -/
def frontOfBrace (rest : List Char) : Front × List Char :=
  (braceRules.findSome? fun rule => rule ('{' :: rest)).getD (single '{' rest)

/-- What a slash begins.  An empty comment with two stars is a comment like
any other, and not the beginning of a documentation comment. -/
def frontOfSlash (rest : List Char) : Front × List Char :=
  match rest with
  | '/' :: _ =>
      (.lexeme ⟨.lineComment, '/' :: rest.takeWhile fun character => character != '\n'⟩,
        rest.dropWhile fun character => character != '\n')
  | '*' :: '*' :: '/' :: after => (.lexeme ⟨.comment, "/**/".toList⟩, after)
  | '*' :: '*' :: after => (.opener .docComment "/**".toList, after)
  | '*' :: after => (.opener .comment "/*".toList, after)
  | _ => single '/' rest

/-- What a double quote begins: a string up to the next one.  Nothing stands
for a quote inside a string. -/
def frontOfQuote (rest : List Char) : Front × List Char :=
  match Text.cutAt? ['"'] rest with
  | some (inside, after) => (.token .quoted ('"' :: inside ++ ['"']), after)
  | none => single '"' rest

/-- What a letter or underscore begins: the longest name, unless all of it is a
reserved word. -/
def frontOfLetter (character : Char) (rest : List Char) : Front × List Char :=
  match DottedName.front? (character :: rest) with
  | some (name, after) => (.token ((TokenKind.reserved? name).getD .name) name, after)
  | none => single character rest

/-- What stands at the front of a text that is not empty, and what follows. -/
def front (character : Char) (rest : List Char) : Front × List Char :=
  if Text.isBlank character then
    (.lexeme ⟨.blank, character :: rest.takeWhile Text.isBlank⟩, rest.dropWhile Text.isBlank)
  else if DottedName.isStart character then frontOfLetter character rest
  else
    match character with
    | '/' => frontOfSlash rest
    | '{' => frontOfBrace rest
    | '}' => (.token .closeCurly ['}'], rest)
    | '=' => (.token .equals ['='], rest)
    | '"' => frontOfQuote rest
    | character => single character rest

/-- Where a scanner stands. -/
inductive Mode where
  | between
  | inside (construct : Construct) (opener : List Char)
deriving DecidableEq, Repr

end Scanner

/-- A scanner: where it stands and the text it has not read yet. -/
structure Scanner where
  mode : Scanner.Mode
  rest : List Char
deriving DecidableEq, Repr

namespace Scanner

/-- A scanner before the first character of a text. -/
def ofText (text : List Char) : Scanner := ⟨.between, text⟩

/-- One step: the lexeme that it finished, if any, and the scanner after it.
There is no step between lexemes at the end of the text. -/
def step : Scanner -> Option (Option Lexeme × Scanner)
  | ⟨.between, []⟩ => none
  | ⟨.between, character :: rest⟩ =>
      match front character rest with
      | (.lexeme lexeme, after) => some (some lexeme, ⟨.between, after⟩)
      | (.opener construct text, after) => some (none, ⟨.inside construct text, after⟩)
  | ⟨.inside construct opener, rest⟩ =>
      match Text.cutAt? construct.closer rest with
      | some (inside, after) =>
          some (some ⟨construct.lexemeKind, opener ++ inside ++ construct.closer⟩, ⟨.between, after⟩)
      | none => some (some ⟨.token .unexpected, opener ++ rest⟩, ⟨.between, []⟩)

/-! ## Every step reads on -/

/-- A front and what follows it make up the text, and a front is never empty. -/
def Splits (text : List Char) (cut : Front × List Char) : Prop :=
  text = cut.1.text ++ cut.2 ∧ cut.1.text ≠ []

theorem splits_fixed? {build : List Char -> Front} {word text : List Char} {cut : Front × List Char}
    (written : (build word).text = word) (notEmpty : word ≠ [])
    (found : fixed? build word text = some cut) : Splits text cut := by
  simp only [fixed?, Option.map_eq_some_iff] at found
  rcases found with ⟨rest, dropped, rfl⟩
  exact ⟨by rw [Text.dropWord?_eq_some_iff.mp dropped, written], by rw [written]; exact notEmpty⟩

theorem splits_openTag? {kind : TemplateKind} {text : List Char} {cut : Front × List Char}
    (found : openTag? kind text = some cut) : Splits text cut := by
  simp only [openTag?] at found
  split at found
  · next blank second rest dropped =>
      split at found
      · simp only [Option.map_eq_some_iff] at found
        rcases found with ⟨⟨inside, after⟩, closed, rfl⟩
        constructor
        · rw [Text.dropWord?_eq_some_iff.mp dropped, Text.eq_of_cutAt? closed]
          simp only [Front.text, List.append_assoc, List.cons_append, List.nil_append]
        · simp only [Front.text, List.append_assoc, List.cons_append, ne_eq, List.append_eq_nil_iff, reduceCtorEq,
            and_false, not_false_eq_true]
      · cases found
  · cases found

theorem splits_single (character : Char) (rest : List Char) :
    Splits (character :: rest) (single character rest) :=
  ⟨rfl, List.cons_ne_nil _ _⟩

theorem splits_frontOfBrace (rest : List Char) : Splits ('{' :: rest) (frontOfBrace rest) := by
  unfold frontOfBrace
  cases tried : braceRules.findSome? fun rule => rule ('{' :: rest) with
  | none => exact splits_single '{' rest
  | some cut =>
      rcases List.exists_of_findSome?_eq_some tried with ⟨rule, member, found⟩
      simp only [braceRules, List.mem_cons, List.not_mem_nil, or_false] at member
      rcases member with rfl | rfl | rfl | rfl | rfl
      · exact splits_openTag? found
      · exact splits_openTag? found
      · exact splits_fixed? rfl (by decide) found
      · exact splits_fixed? rfl (by decide) found
      · exact splits_fixed? rfl (by decide) found

theorem splits_frontOfSlash (rest : List Char) : Splits ('/' :: rest) (frontOfSlash rest) := by
  unfold frontOfSlash
  split
  · exact ⟨by simp only [Front.text, List.cons_append, List.takeWhile_append_dropWhile], List.cons_ne_nil _ _⟩
  · exact ⟨rfl, List.cons_ne_nil _ _⟩
  · exact ⟨rfl, List.cons_ne_nil _ _⟩
  · exact ⟨rfl, List.cons_ne_nil _ _⟩
  · exact splits_single '/' rest

theorem splits_frontOfQuote (rest : List Char) : Splits ('"' :: rest) (frontOfQuote rest) := by
  unfold frontOfQuote
  split
  · next inside after closed =>
      constructor
      · simp only [Front.text, Front.token, Text.eq_of_cutAt? closed, List.append_assoc, List.cons_append]
      · exact List.cons_ne_nil _ _
  · exact splits_single '"' rest

theorem splits_frontOfLetter (character : Char) (rest : List Char) :
    Splits (character :: rest) (frontOfLetter character rest) := by
  unfold frontOfLetter
  split
  · next name after found => exact DottedName.eq_of_front? found
  · exact splits_single character rest

/-- Every rule splits the text it applies to. -/
theorem splits_front (character : Char) (rest : List Char) :
    Splits (character :: rest) (front character rest) := by
  unfold front
  split
  · exact ⟨by simp only [Front.text, List.cons_append, List.takeWhile_append_dropWhile], List.cons_ne_nil _ _⟩
  · split
    · exact splits_frontOfLetter character rest
    · split
      · exact splits_frontOfSlash rest
      · exact splits_frontOfBrace rest
      · exact ⟨rfl, List.cons_ne_nil _ _⟩
      · exact ⟨rfl, List.cons_ne_nil _ _⟩
      · exact splits_frontOfQuote rest
      · exact splits_single _ rest

/-- How much work is left: every character counts twice, and a construct that
is still open counts once. -/
def work (scanner : Scanner) : Nat :=
  2 * scanner.rest.length + if scanner.mode = .between then 0 else 1

/-- Every step leaves less work. -/
theorem work_step_lt {scanner next : Scanner} {lexeme : Option Lexeme}
    (stepped : scanner.step = some (lexeme, next)) : next.work < scanner.work := by
  rcases scanner with ⟨mode, rest⟩
  cases mode with
  | between =>
      cases rest with
      | nil => simp only [step, reduceCtorEq] at stepped
      | cons character rest =>
          have splits := splits_front character rest
          have longer := congrArg List.length splits.1
          have positive := List.length_pos_iff.mpr splits.2
          simp only [List.length_cons, List.length_append] at longer
          simp only [step] at stepped
          split at stepped
          · next piece after found =>
              cases stepped
              simp only [found] at longer positive
              simp only [work, List.length_cons, if_true]
              omega
          · next construct text after found =>
              cases stepped
              simp only [found] at longer positive
              simp only [work, List.length_cons, if_true, reduceCtorEq, if_false]
              omega
  | inside construct opener =>
      simp only [step] at stepped
      split at stepped
      · next inside after closed =>
          cases stepped
          have longer := congrArg List.length (Text.eq_of_cutAt? closed)
          simp only [List.length_append] at longer
          simp only [work, if_true, reduceCtorEq, if_false]
          omega
      · cases stepped
        simp only [work, List.length_nil, if_true, reduceCtorEq, if_false]
        omega

/-! ## No lexeme is the end of the file -/

/-- A front that is not the token ending a file. -/
def Inner (front : Front) : Prop :=
  forall lexeme, front = .lexeme lexeme -> lexeme.kind ≠ .token .endOfFile

theorem inner_token {kind : TokenKind} {text : List Char} (notEnd : kind ≠ .endOfFile) :
    Inner (.token kind text) := by
  intro lexeme equal
  cases equal
  exact fun same => notEnd (LexemeKind.token.inj same)

theorem inner_opener (construct : Construct) (text : List Char) : Inner (.opener construct text) := by
  intro lexeme equal
  cases equal

theorem inner_fixed? {kind : TokenKind} {word text : List Char} {cut : Front × List Char}
    (notEnd : kind ≠ .endOfFile) (found : fixed? (.token kind) word text = some cut) : Inner cut.1 := by
  simp only [fixed?, Option.map_eq_some_iff] at found
  rcases found with ⟨rest, dropped, rfl⟩
  exact inner_token notEnd

theorem inner_openTag? {kind : TemplateKind} {text : List Char} {cut : Front × List Char}
    (found : openTag? kind text = some cut) : Inner cut.1 := by
  simp only [openTag?] at found
  split at found
  · split at found
    · simp only [Option.map_eq_some_iff] at found
      rcases found with ⟨⟨inside, after⟩, closed, rfl⟩
      exact inner_opener _ _
    · cases found
  · cases found

theorem inner_single (character : Char) (rest : List Char) : Inner (single character rest).1 :=
  inner_token (by decide)

theorem inner_frontOfBrace (rest : List Char) : Inner (frontOfBrace rest).1 := by
  unfold frontOfBrace
  cases tried : braceRules.findSome? fun rule => rule ('{' :: rest) with
  | none => exact inner_single '{' rest
  | some cut =>
      rcases List.exists_of_findSome?_eq_some tried with ⟨rule, member, found⟩
      simp only [braceRules, List.mem_cons, List.not_mem_nil, or_false] at member
      rcases member with rfl | rfl | rfl | rfl | rfl
      · exact inner_openTag? found
      · exact inner_openTag? found
      · exact inner_fixed? (by decide) found
      · exact inner_fixed? (by decide) found
      · exact inner_fixed? (by decide) found

theorem inner_frontOfSlash (rest : List Char) : Inner (frontOfSlash rest).1 := by
  unfold frontOfSlash
  split
  · exact fun lexeme equal => by cases equal; exact LexemeKind.noConfusion
  · exact fun lexeme equal => by cases equal; exact LexemeKind.noConfusion
  · exact inner_opener _ _
  · exact inner_opener _ _
  · exact inner_single '/' rest

theorem reserved?_ne_endOfFile (word : List Char) : (TokenKind.reserved? word).getD .name ≠ .endOfFile := by
  unfold TokenKind.reserved?
  repeat' split
  all_goals exact TokenKind.noConfusion

/-- No rule cuts off the end of the file. -/
theorem inner_front (character : Char) (rest : List Char) : Inner (front character rest).1 := by
  unfold front
  split
  · exact fun lexeme equal => by cases equal; exact LexemeKind.noConfusion
  · split
    · unfold frontOfLetter
      split
      · exact inner_token (reserved?_ne_endOfFile _)
      · exact inner_single character rest
    · split
      · exact inner_frontOfSlash rest
      · exact inner_frontOfBrace rest
      · exact inner_token (by decide)
      · exact inner_token (by decide)
      · unfold frontOfQuote
        split
        · exact inner_token (by decide)
        · exact inner_single '"' rest
      · exact inner_single _ rest

/-- No step finishes the token that ends a file. -/
theorem kind_ne_of_step {scanner next : Scanner} {lexeme : Lexeme}
    (stepped : scanner.step = some (some lexeme, next)) : lexeme.kind ≠ .token .endOfFile := by
  rcases scanner with ⟨mode, rest⟩
  cases mode with
  | between =>
      cases rest with
      | nil => simp only [step, reduceCtorEq] at stepped
      | cons character rest =>
          have inner := inner_front character rest
          simp only [step] at stepped
          split at stepped
          · next piece after found =>
              cases stepped
              exact inner _ (by rw [found])
          · cases stepped
  | inside construct opener =>
      simp only [step] at stepped
      split at stepped
      · cases stepped
        cases construct <;> exact fun same => by cases same
      · cases stepped
        exact fun same => by cases same

/-! ## The lexemes of a text -/

/-- All lexemes that a scanner still finds. -/
def lexemes (scanner : Scanner) : List Lexeme :=
  match stepped : scanner.step with
  | none => []
  | some (none, next) =>
      have := work_step_lt stepped
      lexemes next
  | some (some lexeme, next) =>
      have := work_step_lt stepped
      lexeme :: lexemes next
termination_by scanner.work

/-- No lexeme is the token that ends a file. -/
theorem kind_ne_of_mem_lexemes {scanner : Scanner} {lexeme : Lexeme} (member : lexeme ∈ scanner.lexemes) :
    lexeme.kind ≠ .token .endOfFile := by
  fun_induction lexemes scanner with
  | case1 scanner finished => simp only [List.not_mem_nil] at member
  | case2 scanner next stepped _ inductionHypothesis => exact inductionHypothesis member
  | case3 scanner first next stepped _ inductionHypothesis =>
      rcases List.mem_cons.mp member with here | later
      · rw [here]
        exact kind_ne_of_step stepped
      · exact inductionHypothesis later

end Scanner

end TemplateFile
