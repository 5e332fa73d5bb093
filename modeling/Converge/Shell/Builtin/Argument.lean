import Converge.Shell.Builtin.Variable

/-!
# Options and arguments of a shell

Both are set together; options among arguments are also taken one after the other.
-/

namespace Converge.Shell.Builtin

open Act

/-- The options told, either for a reader or as commands. -/
def tellOptions (readable : Bool) : Act Unit := do
  let given := (← get).options
  let told := optionNames.map (fun o => (o.2, given.contains o.1)) ++
    bareOptionNames.map fun name => (name, false)
  if readable then say "Current option settings\n"
  for (name, isOn) in told do
    say (if readable then
        name ++ String.ofList (List.replicate (16 - name.length) ' ') ++ (if isOn then "on" else "off") ++ "\n"
      else "set " ++ (if isOn then "-o " else "+o ") ++ name ++ "\n")

def setOptions : (fuel : Nat) → List String → Act (Option (List String))
  | 0, words => return some words
  | n + 1, words =>
    match words with
    | [] => return none
    | "--" :: rest => return some rest
    | "-" :: rest => return if rest.isEmpty then none else some rest
    | word :: rest =>
      match word.toList with
      | sign :: c :: cs => do
        if sign == '-' || sign == '+' then
          let isOn := sign == '-'
          let mut rest := rest
          for d in c :: cs do
            if d == 'o' then
              match rest with
              | name :: more =>
                match optionNames.find? fun o => o.2 == name with
                | some (d, _) => modify fun s => { s with options := withOption s.options isOn d }
                | none =>
                  if !bareOptionNames.contains name then
                    fail ("Illegal option " ++ String.singleton sign ++ "o " ++ name)
                rest := more
              | [] => tellOptions isOn
            else if isOptionLetter d then
              modify fun s => { s with options := withOption s.options isOn d }
            else fail ("Illegal option " ++ String.singleton sign ++ String.singleton d)
          setOptions n rest
        else return some words
      | _ => return some words

/-- Options and arguments set, or all variables told. -/
def set' (words : List String) : Act Unit := do
  if words.isEmpty then
    for (name, v) in inOrder (← get).bindings.entries do
      if let some value := v.value then say (name ++ "=" ++ quoted value ++ "\n")
  else
    if let some arguments := ← setOptions (words.length + 1) words then
      modify fun s => { s with arguments }
  settle 0

/-- The first arguments dropped. -/
def shift (words : List String) : Act Unit := do
  let n ← match words with
    | [] => pure 1
    | word :: _ => number word
  let s ← get
  if s.arguments.length < n then fail "can't shift that many"
  else set { s with arguments := s.arguments.drop n, status := 0 }

/-- The next option among arguments. -/
def getopts (words : List String) : Act Unit := do
  match words with
  | letters :: name :: rest =>
    let s ← get
    let arguments := if rest.isEmpty then s.arguments else rest
    let index := (((← read? "OPTIND").bind (·.toNat?)).getD 1) - 1
    let place := (((← read? " OPTPLACE").bind (·.toNat?)).getD 0)
    let quiet := letters.startsWith ":"
    let finish (found : String) (index place : Nat) (value : Option String) (status : Nat) : Act Unit := do
      assign name found
      assign "OPTIND" (toString (index + 1))
      assign " OPTPLACE" (toString place)
      match value with
      | some v => assign "OPTARG" v
      | none => modify fun s => { s with bindings := s.bindings.erase "OPTARG" }
      settle status
    match arguments[index]? with
    | none => finish "?" index 0 none 1
    | some word =>
      let cs := word.toList
      if place = 0 && (cs.head? != some '-' || cs.length < 2) then finish "?" index 0 none 1
      else if place = 0 && word == "--" then finish "?" (index + 1) 0 none 1
      else
        let place := max place 1
        let c := cs.getD place '?'
        let (next, nextPlace) := if place + 1 < cs.length then (index, place + 1) else (index + 1, 0)
        match (letters.toList.dropWhile (· ≠ c)), c == ':' with
        | _ :: ':' :: _, false =>
          if place + 1 < cs.length then
            finish (String.singleton c) (index + 1) 0 (some (String.ofList (cs.drop (place + 1)))) 0
          else match arguments[index + 1]? with
            | some v => finish (String.singleton c) (index + 2) 0 (some v) 0
            | none =>
              if quiet then finish ":" (index + 1) 0 (some (String.singleton c)) 0
              else
                write 2 ("No arg for -" ++ String.singleton c ++ " option\n")
                finish "?" (index + 1) 0 none 0
        | _ :: _, false => finish (String.singleton c) next nextPlace none 0
        | _, _ =>
          if quiet then finish "?" next nextPlace (some (String.singleton c)) 0
          else
            write 2 ("Illegal option -" ++ String.singleton c ++ "\n")
            finish "?" next nextPlace none 0
  | _ => fail "Usage: getopts optstring var [arg]"

end Converge.Shell.Builtin
