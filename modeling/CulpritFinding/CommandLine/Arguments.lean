import CulpritFinding.Table

namespace CulpritFinding.CommandLine

inductive Stop
  | help
  | misuse (reason : String)
  deriving DecidableEq

inductive Argument
  /-- Two hyphens and a name, and what follows the first equals sign. -/
  | option (name : String) (attached : Option String)
  | letters (cs : List Char)
  | separator
  | word (text : String)
  deriving DecidableEq

namespace Argument

def ofText (s : String) : Argument :=
  match s.toList with
  | ['-', '-'] => separator
  | '-' :: '-' :: cs =>
    let name := String.ofList (cs.takeWhile (· ≠ '='))
    match cs.dropWhile (· ≠ '=') with
    | [] => option name none
    | _ :: value => option name (some (String.ofList value))
  | '-' :: c :: cs => letters (c :: cs)
  | _ => word s

def isWord (s : String) : Bool :=
  match ofText s with
  | word _ => true
  | _ => false

end Argument

structure OptionRule where
  name : String
  accepts : Option (String → Bool)

/-- The values of options by name; an option without a value has the empty text. -/
abbrev Options := Table String String

structure Reading where
  options : Options
  rest : List String

def OptionRule.take? (rule : OptionRule) (attached : Option String) (rest : List String) :
    Except Stop (String × List String) :=
  match rule.accepts, attached, rest with
  | none, none, rest => .ok ("", rest)
  | none, some _, _ => .error (.misuse ("--" ++ rule.name ++ " takes no value"))
  | some accepts, some value, rest =>
    if accepts value then .ok (value, rest)
    else .error (.misuse ("--" ++ rule.name ++ " does not take " ++ value))
  | some accepts, none, value :: rest =>
    if Argument.isWord value && accepts value then .ok (value, rest)
    else .error (.misuse ("--" ++ rule.name ++ " does not take " ++ value))
  | some _, none, [] => .error (.misuse ("--" ++ rule.name ++ " needs a value"))

theorem OptionRule.length_take?_le {rule : OptionRule} {attached : Option String}
    {rest : List String} {taken : String × List String}
    (h : rule.take? attached rest = .ok taken) : taken.2.length ≤ rest.length := by
  unfold take? at h
  split at h <;> (try split at h) <;> simp_all <;> subst h <;> simp

def readOptions (rules : List OptionRule) (known : Options) (args : List String) :
    Except Stop Reading :=
  match args with
  | [] => .ok ⟨known, []⟩
  | arg :: rest =>
    match Argument.ofText arg with
    | .word _ | .separator => .ok ⟨known, arg :: rest⟩
    | .letters cs =>
      if cs.head? = some 'h' then .error .help else .error (.misuse ("no option " ++ arg))
    | .option "help" none => .error .help
    | .option name attached =>
      match rules.find? fun rule => rule.name = name with
      | none => .error (.misuse ("no option " ++ arg))
      | some rule =>
        if (known.get? name).isSome then .error (.misuse ("--" ++ name ++ " is given twice"))
        else
          match _h : rule.take? attached rest with
          | .error stop => .error stop
          | .ok taken => readOptions rules (known.put name taken.1) taken.2
termination_by args.length
decreasing_by
  have := OptionRule.length_take?_le _h
  simp only [List.length_cons]
  omega

end CulpritFinding.CommandLine
