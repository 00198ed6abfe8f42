/-
Users and passwords in addresses.

They stand before the host, escaped.  To send them they have to be texts again; a user or a password that
is no text is left where it is.
-/
import JobWorker.Text.Utf8
import JobWorker.Url.Path

namespace JobWorker.Url

/-- The user and the password in an address, escaped. -/
structure Login where
  user : List Char
  password : Option (List Char)
  deriving DecidableEq, Repr

namespace Login

/-- What is escaped in a user and in a password. -/
def reserved : List Char := Path.reserved ++ ['/', ':', ';', '=', '@', '[', '\\', ']', '^', '|']

/-- Neither user nor password. -/
def none : Login := ⟨[], .none⟩

/-- Reads what stands before the host: the first colon begins the password, if there is one. -/
def read (text : List Char) : Login where
  user := Percent.encode reserved (text.takeWhile (· ≠ ':'))
  password :=
    match (text.dropWhile (· ≠ ':')).drop 1 with
    | [] => .none
    | password => some (Percent.encode reserved password)

/-- The text before the host. -/
def text (l : Login) : List Char :=
  if l = .none then [] else l.user ++ (l.password.map (':' :: ·)).getD [] ++ ['@']

/-- The user and the password as texts, if there is anything to send. -/
def texts? (l : Login) : Option (String × Option String) :=
  match Text.Utf8.text? (Percent.decode l.user) with
  | .none => .none
  | some user =>
    let password := l.password.bind fun p => Text.Utf8.text? (Percent.decode p)
    if user = "" ∧ password = .none then .none else some (user, password)

end Login

end JobWorker.Url
