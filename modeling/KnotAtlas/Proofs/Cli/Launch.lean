import KnotAtlas.Cli.Program

/-!
From words to commands. A command is launched if the words of the command line name it, their places
for settings and logs can be used and no path has a null in it; what the program shows is then what
the command does. The words that name a validation or a path the usual way are read back.
-/

namespace KnotAtlas.Cli

/-- Whether the words of a command line make a program run a command, with its settings in the given
place. -/
def Launches (w : World) (words : List String) (config : Option String) (command : Command) :
    Prop :=
  ∃ p, Program.request w.env words = .run p ∧ p.config = config ∧
    Command.request p.command p.words = .run command ∧ p.logIsFile w = false ∧
    p.logFault? w = none ∧ haveNull (p.config.toList ++ p.setup.directory.toList) = false ∧
    haveNull command.paths = false

theorem plan_of_launches {w : World} {words : List String} {config : Option String}
    {command : Command} (h : Launches w words config command) :
    ∃ setup, plan w words = .run setup (command.execute w config) := by
  obtain ⟨p, hwords, rfl, hcommand, hfile, hfault, hnull, hpaths⟩ := h
  refine ⟨p.setup, ?_⟩
  simp only [plan, hwords, hfile, hnull, hfault, Program.plan, hcommand, hpaths,
    Bool.false_eq_true, if_false]

theorem haveNull_eq (paths : List String) :
    haveNull paths = paths.any fun path => decide (Char.ofNat 0 ∈ path.toList) := by
  simp only [haveNull, String.contains_char_eq]

/-- The options of a validation with source files, as words. -/
def validateOptions (sources : List String) (strict : Bool) : List String :=
  (sources.flatMap fun path => ["-s", path]) ++ if strict then ["--strict"] else []

def givenOptions (sources : List String) (strict : Bool) : List (Command.Key × Option String) :=
  sources.map (fun path => (.source, some path)) ++ if strict then [(.strict, none)] else []

theorem readWords_source (path : String) (rest : List String) :
    readWords Command.Name.validate.specs true ("-s" :: path :: rest) =
      (readWords Command.Name.validate.specs true rest).map
        (Words.withOptions [(.source, some path)]) := by
  have hoption : isOptionWord "-s" = true := by decide +kernel
  have hopened : openWord Command.Name.validate.specs "-s" = some ⟨[], some .source⟩ := by
    decide +kernel
  simp [readWords.eq_def _ true ("-s" :: path :: rest), hoption, hopened]

theorem readWords_options (sources : List String) (strict : Bool) :
    readWords Command.Name.validate.specs true (validateOptions sources strict) =
      some ⟨givenOptions sources strict, []⟩ := by
  induction sources with
  | nil =>
      cases strict with
      | false => rfl
      | true => decide +kernel
  | cons path rest ih =>
      change readWords _ true ("-s" :: path :: validateOptions rest strict) = _
      rw [readWords_source, ih]
      rfl

theorem values_givenOptions (sources : List String) (strict : Bool) (positional : List String) :
    (⟨givenOptions sources strict, positional⟩ : Words Command.Key).values .source = sources := by
  induction sources with
  | nil =>
      cases strict with
      | false => rfl
      | true => rfl
  | cons path rest ih => exact congrArg (path :: ·) ih

theorem has_givenOptions (sources : List String) (strict : Bool) (positional : List String) :
    let words : Words Command.Key := ⟨givenOptions sources strict, positional⟩
    words.has .help = false ∧ words.has .strict = strict := by
  cases strict with
  | false => simp [Words.has, givenOptions]
  | true => simp [Words.has, givenOptions]

/-- Two dashes alone are no plain word. -/
theorem ne_dashes_of_plain {word : String} (h : isOptionWord word = false) : word ≠ "--" := by
  rintro rfl
  exact absurd h (by decide +kernel)

theorem request_validate {story : String} (hstory : isOptionWord story = false)
    (sources : List String) (strict : Bool) :
    Command.request .validate (story :: validateOptions sources strict) =
      .run (.validate story sources strict) := by
  have hdashes := ne_dashes_of_plain hstory
  have hread : readWords Command.Name.validate.specs true
      (story :: validateOptions sources strict) =
        some ⟨givenOptions sources strict, [story]⟩ := by
    simp [readWords.eq_def _ true (story :: _), hdashes, hstory, readWords_options, Words.withWord]
  obtain ⟨hhelp, hstrict⟩ := has_givenOptions sources strict [story]
  simp only [Command.request, hread, hhelp, Command.ofWords?, values_givenOptions, hstrict,
    Bool.false_eq_true, if_false]

theorem request_program (env : Settings.Environment) (name : Command.Name) (rest : List String) :
    Program.request env (name.word :: rest) =
      .run ⟨{}, (env.find? configVariable).filter (· != ""), name, rest⟩ := by
  have hplain : isOptionWord name.word = false := by cases name <;> decide +kernel
  have hdashes := ne_dashes_of_plain hplain
  have hread : readWords programSpecs false (name.word :: rest) =
      some ⟨[], name.word :: rest⟩ := by
    simp [readWords.eq_def _ false (name.word :: rest), hplain, hdashes]
  have hcommand : Command.Name.ofWord? name.word = some name := by cases name <;> decide
  simp only [Program.request, hread, hcommand]
  rfl

/-- A command whose words make sense is launched by its name and these words. -/
theorem launches_named {w : World} {name : Command.Name} {rest : List String} {command : Command}
    (hrequest : Command.request name rest = .run command)
    (hconfig : haveNull ((w.env.find? configVariable).filter (· != "")).toList = false)
    (hpaths : haveNull command.paths = false) :
    Launches w (name.word :: rest) ((w.env.find? configVariable).filter (· != "")) command := by
  refine ⟨_, request_program w.env name _, rfl, hrequest, rfl, rfl, ?_, hpaths⟩
  rw [← hconfig]
  exact congrArg haveNull (List.append_nil _)

/-- The usual words launch a validation, with its settings where the environment says. -/
theorem launches_validate {w : World} {story : String} {sources : List String}
    (hstory : isOptionWord story = false)
    (hconfig : haveNull ((w.env.find? configVariable).filter (· != "")).toList = false)
    (hpaths : haveNull (story :: sources) = false) (strict : Bool) :
    Launches w ("validate" :: story :: validateOptions sources strict)
      ((w.env.find? configVariable).filter (· != "")) (.validate story sources strict) :=
  launches_named (request_validate hstory sources strict) hconfig hpaths

/-- Words without dashes in front are no options, wherever they stand. -/
theorem readWords_plain {κ : Type} (specs : List (OptionSpec κ)) {words : List String}
    (h : ∀ word ∈ words, isOptionWord word = false) :
    readWords specs true words = some ⟨[], words⟩ := by
  induction words with
  | nil => rfl
  | cons word rest ih =>
      obtain ⟨hword, hrest⟩ := List.forall_mem_cons.mp h
      have hdashes := ne_dashes_of_plain hword
      simp [readWords.eq_def _ true (word :: rest), hdashes, hword, ih hrest, Words.withWord]

/-- The usual words launch the showing of a path. -/
theorem launches_path {w : World} {story start goal : String}
    (hwords : ∀ word ∈ [story, start, goal], isOptionWord word = false)
    (hconfig : haveNull ((w.env.find? configVariable).filter (· != "")).toList = false)
    (hpaths : haveNull [story] = false) :
    Launches w ["path", story, start, goal] ((w.env.find? configVariable).filter (· != ""))
      (.path story start goal) := by
  have hrequest : Command.request .path [story, start, goal] =
      .run (.path story start goal) := by
    rw [Command.request, readWords_plain _ hwords]
    rfl
  exact launches_named hrequest hconfig hpaths

/-- The usual words launch a scan. -/
theorem launches_scan {w : World} {file : String} {files : List String}
    (hwords : ∀ word ∈ file :: files, isOptionWord word = false)
    (hconfig : haveNull ((w.env.find? configVariable).filter (· != "")).toList = false)
    (hpaths : haveNull (file :: files) = false) :
    Launches w ("scan" :: file :: files) ((w.env.find? configVariable).filter (· != ""))
      (.scan (file :: files)) := by
  have hrequest : Command.request .scan (file :: files) = .run (.scan (file :: files)) := by
    rw [Command.request, readWords_plain _ hwords]
    rfl
  exact launches_named hrequest hconfig hpaths

end KnotAtlas.Cli
