import KnotAtlas.Proofs.Settings.Errors
import KnotAtlas.Settings.File

/-!
How the loading of settings ends, whatever makes data of the text of a file. A file that is there is
opened, decoded, read and taken entry by entry; whatever fails on this way is told with the path of
the file. The environment holds texts only, and what fails there is always an error of a value. What
is not told as an error of settings is a path that cannot be asked for what stands under it.
-/

namespace KnotAtlas.Settings

/-! ### The environment -/

section Environment

variable [Datum.ShowLimit]

theorem not_slips_text (k : Error.Kind) (key : Key) (text : String) :
    ¬ Slips k key (.str text) := by
  intro h
  cases h with
  | deep _ hfault => cases hfault

/-- Why the environment cannot be read: the first of its settings that cannot be read decides. -/
def EnvironmentFault (env : Environment) (e : Error) : Prop :=
  ∃ front key rest, environmentKeys = front ++ key :: rest ∧
    (∀ earlier ∈ front, ∀ name value, variableOf? env earlier = some (name, value) →
      ∃ c, parse earlier name (.str value) = .ok c) ∧
    ∃ name value, variableOf? env key = some (name, value) ∧ parse key name (.str value) = .error e

theorem kind_of_parse_text {key : Key} {name text : String} {e : Error}
    (h : parse key name (.str text) = .error e) : e.kind = .value := by
  rcases parse_eq_error h with hvalue | hslips
  · exact hvalue
  · exact absurd hslips (not_slips_text _ _ _)

theorem EnvironmentFault.kind_eq {env : Environment} {e : Error} (h : EnvironmentFault env e) :
    e.kind = .value := by
  obtain ⟨_, _, _, _, _, name, value, _, hparse⟩ := h
  exact kind_of_parse_text hparse

theorem readVariable_eq_error_iff {env : Environment} {s : Settings} {key : Key} {e : Error} :
    readVariable env s key = .error e ↔
      ∃ name value, variableOf? env key = some (name, value) ∧
        parse key name (.str value) = .error e := by
  rw [readVariable]
  cases hfound : variableOf? env key with
  | none => simp
  | some named =>
      obtain ⟨name, value⟩ := named
      constructor
      · exact fun h => ⟨name, value, rfl, readKey_eq_error_iff.mp h⟩
      · rintro ⟨name', value', ⟨⟩, h⟩
        exact readKey_eq_error_iff.mpr h

theorem readVariable_isOk_iff (env : Environment) (key : Key) (s : Settings) :
    (∃ t, readVariable env s key = .ok t) ↔
      ∀ name value, variableOf? env key = some (name, value) →
        ∃ c, parse key name (.str value) = .ok c := by
  simp only [Except.exists_ok_iff, ne_eq, readVariable_eq_error_iff, not_exists, not_and]
  exact ⟨fun h name value hvalue e => h e name value hvalue,
    fun h e name value hvalue => h name value hvalue e⟩

/-- What was read before does not matter to the environment. -/
theorem withEnvironment_eq_error_iff {s : Settings} {env : Environment} {e : Error} :
    s.withEnvironment env = .error e ↔ EnvironmentFault env e := by
  rw [withEnvironment, Except.foldlM_eq_error_iff, EnvironmentFault]
  constructor
  · rintro ⟨front, key, rest, m, hkeys, hfront, hkey⟩
    exact ⟨front, key, rest, hkeys,
      (Except.foldlM_isOk_iff (readVariable_isOk_iff env)).mp ⟨m, hfront⟩,
      readVariable_eq_error_iff.mp hkey⟩
  · rintro ⟨front, key, rest, hkeys, hfront, hkey⟩
    obtain ⟨m, hm⟩ := (Except.foldlM_isOk_iff (s := s) (readVariable_isOk_iff env)).mpr hfront
    exact ⟨front, key, rest, m, hkeys, hm, readVariable_eq_error_iff.mpr hkey⟩

end Environment

/-! ### Files -/

theorem splitBy_eq_singleton {p : Char → Bool} {cs : List Char} (h : ∀ c ∈ cs, p c = false) :
    Text.splitBy p cs = [cs] := by
  induction cs with
  | nil => rfl
  | cons c rest ih =>
      obtain ⟨hc, hrest⟩ := List.forall_mem_cons.mp h
      rw [Text.splitBy, if_neg (by simp [hc]), ih hrest]

theorem look_of_read {tree : Files.Tree} {path : String} {bytes : List UInt8}
    (h : tree.read path = .ok bytes) : tree.look path = .ok (.file bytes) := by
  unfold Files.Tree.read at h
  split at h
  · cases h
    assumption
  · cases h
  · cases h

theorem walk_ne_tooLong (tree : Files.Tree) (place : List String) {cs : List String}
    (h : ∀ c ∈ cs, Files.isLongComponent c = false) : tree.walk place cs ≠ .error .tooLong := by
  fun_induction Files.Tree.walk tree place cs <;> grind

section Files

variable {φ : Type}

/-- Whether an error of loading is told as one of settings. Nothing looks after a path while it is
asked for what stands under it, and only errors of a value are expected of the environment. -/
def LoadErrorBy.IsTold : LoadErrorBy φ → Prop
  | .badPath _ _ => False
  | .environment e => e.kind = .value
  | .yaml _ _ | .unreadable _ _ | .notUtf8 _ _ | .notMapping _ | .invalid _ _ => True

/-- Whether a path can be asked for what stands under it. -/
def Askable (tree : Files.Tree) (path : String) : Prop :=
  tree.look (filePath tree path) ≠ .error .tooLong

/-- Whether neither a path nor one of its components is too long. -/
def IsShort (path : String) : Prop :=
  (Files.plainPath path).utf8ByteSize ≤ Files.pathLimit ∧
    ∀ c ∈ Files.components path, Files.isLongComponent c = false

theorem askable_of_short {tree : Files.Tree} {path : String} (h : IsShort (filePath tree path)) :
    Askable tree path := by
  obtain ⟨hsize, hparts⟩ := h
  rw [Askable, Files.Tree.look, if_neg (Nat.not_lt.mpr hsize)]
  exact walk_ne_tooLong tree _ hparts

/-- A name that is too long for a component cannot be asked for, whatever stands in the tree. -/
theorem not_askable_of_long {tree : Files.Tree} {name : String}
    (hplain : Files.plainPath name = name) (hparts : Files.components name = [name])
    (hlong : Files.isLongComponent name = true) :
    filePath tree name = name ∧ ¬ Askable tree name := by
  have hup : name ≠ ".." := by
    rintro rfl
    exact absurd hlong (by decide)
  have hlook : tree.look name = .error .tooLong := by
    rw [Files.Tree.look, hparts]
    split
    · rfl
    · unfold Files.Tree.walk
      split
      · rename_i heq
        cases heq
      · rename_i heq
        cases heq
        exact absurd rfl hup
      · rename_i heq
        cases heq
        rw [if_pos hlong]
  have hfile : filePath tree name = name := by
    rw [filePath, hplain, Files.Tree.isDirectory, hlook]
    rfl
  rw [Askable, hfile, not_not]
  exact ⟨rfl, hlook⟩

/-- Whether the bytes of a file are the text of a value. -/
def Holds (read : Reader φ) (bytes : List UInt8) (v : Datum) : Prop :=
  ∃ cs, Text.Utf8.decode bytes = .ok cs ∧ read (Text.plainLineEnds cs) = .ok v

variable [Datum.ShowLimit]

/-- Why what stands under the name of a file gives no settings. -/
inductive NodeFault (read : Reader φ) (file : String) : Files.Node → LoadErrorBy φ → Prop
  | directory : NodeFault read file .directory (.unreadable file .isDirectory)
  | bytes {bytes : List UInt8} {fault : Text.Utf8.Fault} :
      Text.Utf8.decode bytes = .error fault →
      NodeFault read file (.file bytes) (.notUtf8 file fault.inBlocks)
  | text {bytes : List UInt8} {cs : List Char} {fault : φ} :
      Text.Utf8.decode bytes = .ok cs → read (Text.plainLineEnds cs) = .error fault →
      NodeFault read file (.file bytes) (.yaml file fault)
  | value {bytes : List UInt8} {v : Datum} :
      Holds read bytes v → v.isNull = false → (∀ entries, v ≠ .mapping entries) →
      NodeFault read file (.file bytes) (.notMapping file)
  | entry {bytes : List UInt8} {entries : List (Datum × Datum)} {fault : Error} :
      Holds read bytes (.mapping entries) → ofEntries entries = .error fault →
      NodeFault read file (.file bytes) (.invalid file fault)

/-- Why the file that a path stands for gives no settings. -/
def FileFault (read : Reader φ) (tree : Files.Tree) (path : String) (e : LoadErrorBy φ) : Prop :=
  ∃ node, tree.look (filePath tree path) = .ok node ∧ NodeFault read (filePath tree path) node e

variable {read : Reader φ} {tree : Files.Tree} {path file : String} {e : LoadErrorBy φ}

theorem NodeFault.source_eq {node : Files.Node} (h : NodeFault read file node e) :
    e.source = file := by
  cases h <;> rfl

theorem NodeFault.isTold {node : Files.Node} (h : NodeFault read file node e) : e.IsTold := by
  cases h <;> trivial

theorem ofDatum_eq_error_iff {v : Datum} :
    ofDatum file v = .error e ↔
      v.isNull = false ∧ (∀ entries, v ≠ .mapping entries) ∧ e = .notMapping file ∨
      ∃ entries fault, v = .mapping entries ∧ ofEntries entries = .error fault ∧
        e = .invalid file fault := by
  cases v with
  | mapping entries =>
      rw [ofDatum, Except.mapError_eq_error_iff]
      constructor
      · rintro ⟨fault, hfault, rfl⟩
        exact .inr ⟨entries, fault, rfl, hfault, rfl⟩
      · rintro (⟨-, hno, -⟩ | ⟨_, fault, ⟨⟩, hfault, rfl⟩)
        · exact absurd rfl (hno entries)
        · exact ⟨fault, hfault, rfl⟩
  | null | bool _ | int _ | float _ | str _ | date _ | moment _ _ | list _ | tuple _ =>
      simp [ofDatum, Datum.isNull, eq_comm]

theorem ofBytes_eq_error_iff {bytes : List UInt8} :
    ofBytes read file bytes = .error e ↔ NodeFault read file (.file bytes) e := by
  rw [ofBytes]
  cases hdecode : Text.Utf8.decode bytes with
  | error fault =>
      constructor
      · rintro ⟨⟩
        exact .bytes hdecode
      · intro h
        cases h with
        | bytes hbytes =>
            cases hdecode.symm.trans hbytes
            rfl
        | text hcs _ => cases hdecode.symm.trans hcs
        | value hv _ _ =>
            obtain ⟨cs, hcs, -⟩ := hv
            cases hdecode.symm.trans hcs
        | entry hv _ =>
            obtain ⟨cs, hcs, -⟩ := hv
            cases hdecode.symm.trans hcs
  | ok cs =>
      have hholds : ∀ v, Holds read bytes v → read (Text.plainLineEnds cs) = .ok v := by
        rintro v ⟨cs', hcs, hv⟩
        cases hdecode.symm.trans hcs
        exact hv
      dsimp only
      rw [Except.bind_eq_error_iff, Except.mapError_eq_error_iff]
      simp only [Except.mapError_eq_ok_iff, ofDatum_eq_error_iff]
      constructor
      · rintro (⟨fault, hfault, rfl⟩ | ⟨v, hv, hdatum⟩)
        · exact .text hdecode hfault
        · obtain ⟨hnull, hno, rfl⟩ | ⟨entries, fault, rfl, hfault, rfl⟩ := hdatum
          · exact .value ⟨cs, hdecode, hv⟩ hnull hno
          · exact .entry ⟨cs, hdecode, hv⟩ hfault
      · intro h
        cases h with
        | bytes hbytes => cases hdecode.symm.trans hbytes
        | text hcs hfault =>
            cases hdecode.symm.trans hcs
            exact .inl ⟨_, hfault, rfl⟩
        | value hv hnull hno => exact .inr ⟨_, hholds _ hv, .inl ⟨hnull, hno, rfl⟩⟩
        | entry hv hfault => exact .inr ⟨_, hholds _ hv, .inr ⟨_, _, rfl, hfault, rfl⟩⟩

/-- A file gives no settings if it cannot be asked for, or if it is there and at fault. -/
theorem ofPath_eq_error_iff :
    ofPath read tree path = .error e ↔
      ¬ Askable tree path ∧ e = .badPath (filePath tree path) .tooLong ∨
      FileFault read tree path e := by
  unfold ofPath Askable FileFault
  dsimp only
  generalize filePath tree path = file
  generalize tree.look file = found
  obtain fault | bytes | - := found
  · cases fault <;> simp [eq_comm]
  · simp [ofBytes_eq_error_iff]
  · constructor
    · rintro ⟨⟩
      exact .inr ⟨_, rfl, .directory⟩
    · rintro (⟨hlong, -⟩ | ⟨node, ⟨⟩, ⟨⟩⟩)
      · simp at hlong
      · rfl

theorem FileFault.source_eq (h : FileFault read tree path e) : e.source = filePath tree path := by
  obtain ⟨node, -, hfault⟩ := h
  exact hfault.source_eq

theorem FileFault.isTold (h : FileFault read tree path e) : e.IsTold := by
  obtain ⟨node, -, hfault⟩ := h
  exact hfault.isTold

/-! ### Loading -/

/-- Whether a path, if one is given, leads to settings: it can be asked for, and no file that is
there is at fault. -/
def Sound (read : Reader φ) (tree : Files.Tree) (path? : Option String) : Prop :=
  ∀ path ∈ path?, Askable tree path ∧ ∀ e, ¬ FileFault read tree path e

theorem sound_some_iff :
    Sound read tree (some path) ↔ ∃ base, ofPath read tree path = .ok base := by
  simp only [Except.exists_ok_iff, ne_eq, ofPath_eq_error_iff, not_or]
  constructor
  · rintro hsound e
    obtain ⟨haskable, hfile⟩ := hsound path rfl
    exact ⟨fun hlong => hlong.1 haskable, hfile e⟩
  · rintro h _ ⟨⟩
    refine ⟨Classical.byContradiction fun hlong => ?_, fun e => (h e).2⟩
    exact (h _).1 ⟨hlong, rfl⟩

variable {path? : Option String} {env : Environment}

theorem mapError_withEnvironment_eq_error_iff (base : Settings) :
    (base.withEnvironment env).mapError .environment = .error e ↔
      ∃ fault, EnvironmentFault env fault ∧ e = .environment fault := by
  rw [Except.mapError_eq_error_iff]
  constructor
  · rintro ⟨fault, hfault, rfl⟩
    exact ⟨fault, withEnvironment_eq_error_iff.mp hfault, rfl⟩
  · rintro ⟨fault, hfault, rfl⟩
    exact ⟨fault, withEnvironment_eq_error_iff.mpr hfault, rfl⟩

/-- Loading fails where the path or its file does, and else where the environment does. -/
theorem loadBy_eq_error_iff :
    loadBy read tree path? env = .error e ↔
      (∃ path ∈ path?, ¬ Askable tree path ∧ e = .badPath (filePath tree path) .tooLong) ∨
      (∃ path ∈ path?, FileFault read tree path e) ∨
      Sound read tree path? ∧ ∃ fault, EnvironmentFault env fault ∧ e = .environment fault := by
  cases path? with
  | none =>
      unfold loadBy
      rw [Except.bind_eq_error_iff]
      simp [Sound, mapError_withEnvironment_eq_error_iff]
  | some path =>
      unfold loadBy
      rw [Except.bind_eq_error_iff, ofPath_eq_error_iff, sound_some_iff]
      simp only [mapError_withEnvironment_eq_error_iff, exists_and_right, Option.mem_some_iff,
        exists_eq_left', or_assoc]

theorem loadBy_isOk_iff :
    (∃ s, loadBy read tree path? env = .ok s) ↔
      Sound read tree path? ∧ ∀ fault, ¬ EnvironmentFault env fault := by
  simp only [Except.exists_ok_iff, ne_eq, loadBy_eq_error_iff, not_or]
  constructor
  · intro h
    have hsound : Sound read tree path? := by
      intro path hpath
      refine ⟨Classical.byContradiction fun hlong => ?_, fun e hfile => ?_⟩
      · exact (h _).1 ⟨path, hpath, hlong, rfl⟩
      · exact (h e).2.1 ⟨path, hpath, hfile⟩
    exact ⟨hsound, fun fault hfault => (h _).2.2 ⟨hsound, fault, hfault, rfl⟩⟩
  · rintro ⟨hsound, henv⟩ e
    refine ⟨?_, ?_, ?_⟩
    · rintro ⟨path, hpath, hlong, -⟩
      exact hlong (hsound path hpath).1
    · rintro ⟨path, hpath, hfile⟩
      exact (hsound path hpath).2 e hfile
    · rintro ⟨-, fault, hfault, -⟩
      exact henv fault hfault

/-- What is told as an error of settings is the fault of the file or of the environment. -/
theorem told_iff :
    loadBy read tree path? env = .error e ∧ e.IsTold ↔
      (∃ path ∈ path?, FileFault read tree path e ∧ e.source = filePath tree path) ∨
      Sound read tree path? ∧ e.source = "environment" ∧
        ∃ fault, EnvironmentFault env fault ∧ e = .environment fault := by
  rw [loadBy_eq_error_iff]
  constructor
  · rintro ⟨⟨path, hpath, -, rfl⟩ | ⟨path, hpath, hfile⟩ | ⟨hsound, fault, hfault, rfl⟩, he⟩
    · exact absurd he id
    · exact .inl ⟨path, hpath, hfile, hfile.source_eq⟩
    · exact .inr ⟨hsound, rfl, fault, hfault, rfl⟩
  · rintro (⟨path, hpath, hfile, -⟩ | ⟨hsound, -, fault, hfault, rfl⟩)
    · exact ⟨.inr (.inl ⟨path, hpath, hfile⟩), hfile.isTold⟩
    · exact ⟨.inr (.inr ⟨hsound, fault, hfault, rfl⟩), hfault.kind_eq⟩

theorem untold_iff :
    loadBy read tree path? env = .error e ∧ ¬ e.IsTold ↔
      ∃ path ∈ path?, ¬ Askable tree path ∧ e = .badPath (filePath tree path) .tooLong := by
  rw [loadBy_eq_error_iff]
  constructor
  · rintro ⟨hpath | ⟨path, -, hfile⟩ | ⟨-, fault, hfault, rfl⟩, he⟩
    · exact hpath
    · exact absurd hfile.isTold he
    · exact absurd hfault.kind_eq he
  · rintro ⟨path, hpath, hlong, rfl⟩
    exact ⟨.inl ⟨path, hpath, hlong, rfl⟩, id⟩

/-- How loading ends, whatever reads the text of a file. It gives settings exactly if no file and
no variable is at fault. An error is told as one of settings exactly if it is that of the file that
the path stands for, with that file as its source, or if there is nothing wrong with the file and it
is that of the first variable that cannot be read, with the environment as its source. Only the
error of a path that cannot be asked for is not told; so a path that is not too long leads to
settings, or to an error that is told. -/
theorem loaded_or_told (read : Reader φ) (tree : Files.Tree) (path? : Option String)
    (env : Environment) :
    ((∃ s, loadBy read tree path? env = .ok s) ↔
      Sound read tree path? ∧ ∀ fault, ¬ EnvironmentFault env fault) ∧
    (∀ e, loadBy read tree path? env = .error e ∧ e.IsTold ↔
      (∃ path ∈ path?, FileFault read tree path e ∧ e.source = filePath tree path) ∨
      Sound read tree path? ∧ e.source = "environment" ∧
        ∃ fault, EnvironmentFault env fault ∧ e = .environment fault) ∧
    (∀ e, loadBy read tree path? env = .error e ∧ ¬ e.IsTold ↔
      ∃ path ∈ path?, ¬ Askable tree path ∧ e = .badPath (filePath tree path) .tooLong) ∧
    ((∀ path ∈ path?, IsShort (filePath tree path)) →
      (∃ s, loadBy read tree path? env = .ok s) ∨
      ∃ e, loadBy read tree path? env = .error e ∧ e.IsTold) := by
  refine ⟨loadBy_isOk_iff, fun e => told_iff, fun e => untold_iff, fun hshort => ?_⟩
  cases hload : loadBy read tree path? env with
  | ok s => exact .inl ⟨s, rfl⟩
  | error e =>
      refine .inr ⟨e, rfl, Classical.byContradiction fun he => ?_⟩
      obtain ⟨path, hpath, hlong, -⟩ := untold_iff.mp ⟨hload, he⟩
      exact hlong (askable_of_short (hshort path hpath))

end Files

/-- A directory with a settings file of one control character. -/
def garbled : Files.Tree :=
  [(["d", "inkscope.yaml"], .file [7])]

theorem garbled_told :
    (∃ e, loadBy Yaml.read garbled (some "d") [("INKSCOPE_DEBUG", "perhaps")] = .error e ∧
      e.IsTold ∧ e.source = "d/inkscope.yaml") ∧
    (∃ e, loadBy Yaml.read garbled none [("INKSCOPE_DEBUG", "perhaps")] = .error e ∧
      e.IsTold ∧ e.source = "environment") ∧
    ∃ s, loadBy Yaml.read garbled none [("INKSCOPE_DEBUG", "on")] = .ok s := by
  have hnone : Sound Yaml.read garbled none := fun _ h => absurd h (by simp)
  refine ⟨?_, ?_, ?_⟩
  · obtain ⟨-, htold, -, -⟩ :=
      loaded_or_told Yaml.read garbled (some "d") [("INKSCOPE_DEBUG", "perhaps")]
    have hfile : filePath garbled "d" = "d/inkscope.yaml" := by decide +kernel
    have hread : garbled.read (filePath garbled "d") = .ok [7] := by decide +kernel
    have hdecode : Text.Utf8.decode [7] = .ok ['\x07'] := rfl
    have hfault : FileFault Yaml.read garbled "d" (.yaml (filePath garbled "d") .malformed) :=
      ⟨.file [7], look_of_read hread, .text hdecode rfl⟩
    obtain ⟨herror, he⟩ := (htold _).mpr (.inl ⟨"d", rfl, hfault, rfl⟩)
    exact ⟨_, herror, he, hfile⟩
  · obtain ⟨-, htold, -, -⟩ :=
      loaded_or_told Yaml.read garbled none [("INKSCOPE_DEBUG", "perhaps")]
    have hfault : EnvironmentFault [("INKSCOPE_DEBUG", "perhaps")]
        (.notBoolean "INKSCOPE_DEBUG" (.str "perhaps")) :=
      ⟨[], .debug, _, rfl, fun _ h => absurd h List.not_mem_nil, _, _, rfl, rfl⟩
    obtain ⟨herror, he⟩ := (htold _).mpr (.inr ⟨hnone, rfl, _, hfault, rfl⟩)
    exact ⟨_, herror, he, rfl⟩
  · obtain ⟨hloaded, -, -, -⟩ :=
      loaded_or_told Yaml.read garbled none [("INKSCOPE_DEBUG", "on")]
    refine hloaded.mpr ⟨hnone, fun fault hfault => ?_⟩
    have herror : withEnvironment {} [("INKSCOPE_DEBUG", "on")] = .error fault :=
      withEnvironment_eq_error_iff.mpr hfault
    cases herror

/-- A name of 256 letters. -/
def longName : String :=
  String.ofList (List.replicate 256 'n')

theorem components_longName : Files.components longName = [longName] := by
  have hslash : ∀ c ∈ List.replicate 256 'n', (c == '/') = false := by
    intro c hc
    rw [List.eq_of_mem_replicate hc]
    rfl
  have hword : longName ≠ "" ∧ longName ≠ "." := by decide +kernel
  have hsplit : Text.splitOn '/' longName = [longName] := by
    unfold longName
    rw [Text.splitOn, String.toList_ofList]
    exact congrArg _ (splitBy_eq_singleton hslash)
  rw [Files.components, hsplit]
  simp [hword]

theorem plainPath_longName : Files.plainPath longName = longName := by
  have hslashes : Files.slashes longName = "" := by decide +kernel
  have hword : longName ≠ "" := by decide +kernel
  rw [Files.plainPath, hslashes, components_longName]
  simp [hword]

/-- Nothing stands under a name that is too long, and yet the loading ends with an error that is not
told as one of settings. -/
theorem longName_untold :
    ¬ ((∃ s, load [] (some longName) [] = .ok s) ∨
      ∃ e, load [] (some longName) [] = .error e ∧ e.IsTold) ∧
    load [] (some longName) [] = .error (.badPath longName .tooLong) := by
  have hlong : Files.isLongComponent longName = true := by decide +kernel
  obtain ⟨hfile, haskable⟩ :=
    @not_askable_of_long [] longName plainPath_longName components_longName hlong
  have herror : load [] (some longName) [] = .error (.badPath longName .tooLong) :=
    loadBy_eq_error_iff.mpr (.inl ⟨longName, rfl, haskable, by rw [hfile]⟩)
  refine ⟨?_, herror⟩
  rintro (⟨s, h⟩ | ⟨e, h, he⟩)
  · cases herror.symm.trans h
  · cases herror.symm.trans h
    exact he

end KnotAtlas.Settings
