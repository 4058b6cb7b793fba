namespace Labbook

inductive Interruption where
  | usage
  | help
  | version
  deriving DecidableEq

structure OptionSpec where
  name : String
  values : Nat := 1
  repeatable : Bool := false
  required : Bool := false
  accepts : String → Bool := fun _ => true

structure ArgumentSpec where
  positionals : List (String → Bool)
  options : List OptionSpec

structure Arguments where
  positionals : List String := []
  options : List (String × List String) := []

namespace Arguments

def looksLikeOption (word : String) : Bool := word.startsWith "-" && word ≠ "-"

def valuesOf (a : Arguments) (name : String) : List String :=
  (a.options.filter (·.1 == name)).flatMap (·.2)

def value? (a : Arguments) (name : String) : Option String := (a.valuesOf name).head?

def has (a : Arguments) (name : String) : Bool := a.options.any (·.1 == name)

def addPositional (spec : ArgumentSpec) (a : Arguments) (word : String) :
    Except Interruption Arguments :=
  match spec.positionals[a.positionals.length]? with
  | some accepts =>
    if accepts word then .ok { a with positionals := a.positionals ++ [word] } else .error .usage
  | none => .error .usage

def addOption (option : OptionSpec) (a : Arguments) (values : List String) :
    Except Interruption Arguments :=
  if values.length ≠ option.values then .error .usage
  else if a.has option.name && !option.repeatable then .error .usage
  else if !values.all option.accepts then .error .usage
  else .ok { a with options := a.options ++ [(option.name, values)] }

def splitLong (word : String) : String × Option String :=
  let cs := word.toList.drop 2
  let name := cs.takeWhile (· ≠ '=')
  match cs.drop name.length with
  | [] => (String.ofList name, none)
  | _ :: value => (String.ofList name, some (String.ofList value))

def read (spec : ArgumentSpec) (a : Arguments) (words : List String) :
    Except Interruption Arguments :=
  match words with
  | [] => .ok a
  | word :: rest =>
    if word = "--" then rest.foldlM (addPositional spec) a
    else if word.startsWith "--" then
      let (name, attached) := splitLong word
      if name = "help" then .error (if attached.isSome then .usage else .help)
      else
        match spec.options.find? (·.name == name), attached with
        | none, _ => .error .usage
        | some option, some value => do read spec (← addOption option a [value]) rest
        | some option, none =>
          let values := rest.take option.values
          if values.any looksLikeOption then .error .usage
          else do read spec (← addOption option a values) (rest.drop option.values)
    else if looksLikeOption word then .error (if word.startsWith "-h" then .help else .usage)
    else do read spec (← addPositional spec a word) rest
termination_by words.length
decreasing_by all_goals simp_wf; try omega

-- Reads a complete list: every positional argument and every required option has to be there.
def readAll (spec : ArgumentSpec) (words : List String) : Except Interruption Arguments := do
  let a ← read spec {} words
  let missing := spec.options.any fun o => o.required && !a.has o.name
  if missing || a.positionals.length ≠ spec.positionals.length then throw .usage
  return a

end Arguments

end Labbook
