import TemplateFile.Parse

namespace TemplateFile
namespace Session

/-!
# Calls on a session

A session goes from call to call: files are parsed one after the other, and
between them single ids may be taken for purposes of one's own, and reporting
may go over to another log, empty or not.
-/

/-- Something that is done with a session. -/
inductive Call where
  | parse (script : BodyScript) (kind : FileKind) (path source : String)
  | takeId
  | reportTo (log : Log)

/-- What a call answers. -/
inductive Reply where
  | parsed (outcome : ParseOutcome)
  | id (id : Nat)
  | done
deriving DecidableEq, Repr

/-- The reply to a call, and the session after it. -/
def perform (session : Session) : Call -> Reply × Session
  | .parse script kind path source =>
      (.parsed (session.parseFile script kind path source).1, (session.parseFile script kind path source).2)
  | .takeId => (.id session.ids.take.1, { session with ids := session.ids.take.2 })
  | .reportTo log => (.done, { session with log := log })

/-- The replies to several calls, and the session after them. -/
def performAll : Session -> List Call -> List Reply × Session
  | session, [] => ([], session)
  | session, call :: calls =>
      ((session.perform call).1 :: (performAll (session.perform call).2 calls).1,
        (performAll (session.perform call).2 calls).2)

end Session
end TemplateFile
