import MonitorFeed.Payload.Document
import MonitorFeed.Text.Quoted

/-!
The account with which a session is opened.
-/

namespace MonitorFeed

structure Credentials where
  user : String
  password : String
deriving BEq

namespace Credentials

instance : Document Credentials where
  schema := .record "Credentials"
    (.cons "user" .required .text <|
     .cons "password" .required .text .nil)
    { build := fun (user, password, ()) => ⟨user, password⟩
      split := fun account => (account.user, account.password, ())
      build_split := fun _ => rfl
      split_build := fun _ => rfl }

/-- The account for diagnostics, which never show the password. -/
def describe (account : Credentials) : String :=
  Text.record "Credentials"
    [("user", Text.quoted account.user), ("password", Text.quoted "***")]

end Credentials

end MonitorFeed
