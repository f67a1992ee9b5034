/-!
# Environments

The variables that a program runs with.
-/

namespace DocQuery

/-- Variables with their values; of two values of one name the first one counts. -/
abbrev Environment := List (String × String)

namespace Environment

/-- The value of a variable. -/
def get? (environment : Environment) (name : String) : Option String := environment.lookup name

/-- The environment with a variable, unless it has a value already. -/
def addDefault (environment : Environment) (name value : String) : Environment :=
  if (environment.get? name).isSome then environment else environment ++ [(name, value)]

theorem get?_addDefault_self (environment : Environment) (name value : String) :
    (environment.addDefault name value).get? name = some ((environment.get? name).getD value) := by
  cases hname : environment.get? name with
  | some old => simp [addDefault, hname]
  | none =>
      unfold get? at hname
      simp [addDefault, get?, hname, List.lookup_append, List.lookup_cons_self]

end Environment

end DocQuery
