import KnotAtlas.Text.Lines

/-!
Command line words. An option has a long name and perhaps a letter; some take a value, which follows
as a part of the same word or as the next word, whatever that looks like. Letters of several options
may share a word. Two dashes alone end the options.
-/

namespace KnotAtlas.Cli

structure OptionSpec (κ : Type) where
  key : κ
  long : String
  letter : Option Char := none
  takesValue : Bool := false

/-- The options that were given, each with its value if it takes one, and the other words. -/
structure Words (κ : Type) where
  options : List (κ × Option String) := []
  positional : List String := []
  deriving DecidableEq, Repr

namespace Words

variable {κ : Type}

def withOptions (given : List (κ × Option String)) (w : Words κ) : Words κ :=
  { w with options := given ++ w.options }

def withWord (word : String) (w : Words κ) : Words κ :=
  { w with positional := word :: w.positional }

def values [DecidableEq κ] (w : Words κ) (key : κ) : List String :=
  w.options.filterMap fun (k, v) => if k = key then v else none

def count [DecidableEq κ] (w : Words κ) (key : κ) : Nat :=
  w.options.countP (·.1 = key)

def has [DecidableEq κ] (w : Words κ) (key : κ) : Bool :=
  w.options.any (·.1 = key)

def last? [DecidableEq κ] (w : Words κ) (key : κ) : Option String :=
  (w.values key).getLast?

end Words

/-- What one word gives: options that are complete, and perhaps one that waits for its value. -/
structure Opened (κ : Type) where
  complete : List (κ × Option String) := []
  waiting : Option κ := none
  deriving DecidableEq, Repr

variable {κ : Type}

/-- Reads letters of options; a value may follow the letter of an option that takes one. -/
def openLetters (specs : List (OptionSpec κ)) : List Char → Option (Opened κ)
  | [] => some {}
  | c :: rest => do
    let spec ← specs.find? (·.letter = some c)
    if spec.takesValue then
      if rest.isEmpty then return { waiting := some spec.key }
      else return { complete := [(spec.key, some (String.ofList rest))] }
    else
      let later ← openLetters specs rest
      return { later with complete := (spec.key, none) :: later.complete }

/-- The value in a word of the form `name=value`. -/
def valueIn? (word : String) : Option String :=
  match word.toList.dropWhile (· != '=') with
  | _ :: value => some (String.ofList value)
  | [] => none

def openWord (specs : List (OptionSpec κ)) (word : String) : Option (Opened κ) :=
  match specs.find? (·.long = Text.before '=' word) with
  | some spec =>
    match spec.takesValue, valueIn? word with
    | true, some v => some { complete := [(spec.key, some v)] }
    | true, none => some { waiting := some spec.key }
    | false, none => some { complete := [(spec.key, none)] }
    | false, some _ => none
  | none => if "--".isPrefixOf word then none else openLetters specs (word.toList.drop 1)

def isOptionWord (word : String) : Bool :=
  "-".isPrefixOf word && word != "-"

/-- Reads the words of a command line. Unless options may stand anywhere, the first word that is
none ends them. None if an option is unknown, lacks its value, or has one too many. -/
def readWords (specs : List (OptionSpec κ)) (anywhere : Bool) :
    List String → Option (Words κ)
  | [] => some {}
  | word :: rest =>
    if word = "--" then some { positional := rest }
    else if isOptionWord word then
      match openWord specs word, rest with
      | none, _ => none
      | some ⟨complete, none⟩, rest =>
        (readWords specs anywhere rest).map (Words.withOptions complete)
      | some ⟨_, some _⟩, [] => none
      | some ⟨complete, some key⟩, value :: rest =>
        (readWords specs anywhere rest).map
          (Words.withOptions (complete ++ [(key, some value)]))
    else if anywhere then (readWords specs anywhere rest).map (Words.withWord word)
    else some { positional := word :: rest }

end KnotAtlas.Cli
