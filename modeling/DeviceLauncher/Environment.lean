/-!
# Environments

An environment is what surrounds a process: the values of variables, and the users that the system
knows. The order of the variables is that in which they were first set; setting one again keeps its
place.
-/

namespace DeviceLauncher

/-- The users that a system knows, by their home directories. -/
structure Accounts where
  /-- The home directory of the user whom the process belongs to. -/
  own : Option String
  /-- Home directories by the names of users. -/
  named : List (String × String)
  deriving DecidableEq

/-- No users at all. -/
def Accounts.none : Accounts := ⟨.none, []⟩

/-- Variables with their values, and the users of the system. -/
structure Environment where
  entries : List (String × String)
  accounts : Accounts
  deriving DecidableEq

namespace Environment

def empty : Environment := ⟨[], .none⟩

def get? (e : Environment) (name : String) : Option String := e.entries.lookup name

/-- The value of a variable, if it is set and not empty. -/
def given? (e : Environment) (name : String) : Option String :=
  (e.get? name).filter fun value => !value.isEmpty

/-- Sets a variable among some. -/
def setIn (name value : String) : List (String × String) → List (String × String)
  | [] => [(name, value)]
  | entry :: rest =>
    if entry.1 = name then (name, value) :: rest else entry :: setIn name value rest

def set (e : Environment) (name value : String) : Environment :=
  { e with entries := setIn name value e.entries }

@[simp]
theorem get?_set_self (e : Environment) (name value : String) :
    (e.set name value).get? name = some value := by
  simp only [get?, set]
  induction e.entries with
  | nil => simp [setIn]
  | cons entry rest ih =>
    obtain ⟨key, old⟩ := entry
    by_cases h : key = name
    · simp [setIn, h]
    · have hb : (name == key) = false := by simpa using Ne.symm h
      simp [setIn, h, List.lookup_cons, hb, ih]

/-- Setting a variable leaves the others as they are. -/
theorem get?_set_of_ne (e : Environment) {name other : String} (value : String)
    (h : other ≠ name) : (e.set name value).get? other = e.get? other := by
  have hb : (other == name) = false := by simpa using h
  simp only [get?, set]
  induction e.entries with
  | nil => simp [setIn, List.lookup_cons, hb]
  | cons entry rest ih =>
    obtain ⟨key, old⟩ := entry
    by_cases hk : key = name
    · subst hk
      simp [setIn, List.lookup_cons, hb]
    · simp [setIn, hk, List.lookup_cons, ih]

def unset (e : Environment) (name : String) : Environment :=
  { e with entries := e.entries.filter fun entry => entry.1 != name }

/-- The environment with more variables set, one after the other. -/
def overlay (e : Environment) (more : List (String × String)) : Environment :=
  more.foldl (fun e (name, value) => e.set name value) e

/-- The home directory of the user: that of the variable, else that which the system knows. -/
def home? (e : Environment) : Option String := (e.get? "HOME").or e.accounts.own

/-- The home directory of a user by name, and without a name that of the user. -/
def homeOf? (e : Environment) (name : String) : Option String :=
  if name = "" then e.home? else e.accounts.named.lookup name

@[simp]
theorem homeOf?_empty (e : Environment) : e.homeOf? "" = e.home? := rfl

end Environment

end DeviceLauncher
