import Workflow.Builtin
import Workflow.Proofs.References
import Workflow.Proofs.Run.Termination

/-!
# The working folder in a written path

A path parameter may name the working folder by a reference, and a relative path starts at the
working folder anyway.  A path that begins with the reference therefore names the folder twice if
the folder is itself a relative path, and it keeps the blanks behind the reference, which are
dropped in front of a path.  So the reference may be left out exactly if no blanks follow it and
the folder of the command file is an absolute path or adds nothing to a path.
-/

namespace Workflow

namespace Text

section

variable {c : Char} (other : isBlank c = false) (before after : List Char)

include other

theorem trimStart_append_cons :
    trimStart (before ++ c :: after) = trimStart before ++ c :: after := by
  simp only [trimStart]
  induction before with
  | nil => simp [other]
  | cons first rest ih =>
      cases blank : isBlank first with
      | true => simpa [blank] using ih
      | false => simp [blank]

theorem trimEnd_append_cons :
    trimEnd (before ++ c :: after) = before ++ c :: trimEnd after := by
  have reversed : (before ++ c :: after).reverse = after.reverse ++ c :: before.reverse := by
    simp
  have kept := trimStart_append_cons other after.reverse before.reverse
  rw [trimStart, trimStart] at kept
  rw [trimEnd, reversed, kept]
  simp [trimEnd]

theorem trim_append_cons :
    trim (before ++ c :: after) = trimStart before ++ c :: trimEnd after := by
  rw [trim, trimStart_append_cons other, trimEnd_append_cons other]

end

theorem exists_blanks_in_front (text : List Char) :
    ∃ before, AllBlank before ∧ trimEnd text = before ++ trim text := by
  have whole : text = text.takeWhile isBlank ++ trimStart text :=
    List.takeWhile_append_dropWhile.symm
  have kept := List.head?_dropWhile_not isBlank text
  cases left : trimStart text with
  | nil =>
      have blank : AllBlank text := trimStart_eq_nil_iff.mp left
      refine ⟨[], List.forall_mem_nil _, ?_⟩
      rw [trimEnd_eq_nil_iff.mpr blank, trim_eq_nil_iff.mpr blank, List.append_nil]
  | cons c rest =>
      rw [trimStart] at left
      rw [left] at kept
      have solid : isBlank c = false := by simpa using kept
      refine ⟨text.takeWhile isBlank, fun _ member => List.mem_takeWhile_imp member, ?_⟩
      have behind : trim text = c :: trimEnd rest := by
        rw [trim, trimStart, left]
        exact trimEnd_append_cons solid [] rest
      rw [behind]
      conv => lhs; rw [whole, trimStart, left, trimEnd_append_cons solid]

theorem exists_pieces_append {isSeparator : Char → Bool} {before : List Char}
    (none : ∀ c ∈ before, isSeparator c = false) (text : List Char) :
    ∃ piece rest, pieces isSeparator text = piece :: rest ∧
      pieces isSeparator (before ++ text) = (before ++ piece) :: rest := by
  induction before with
  | nil =>
      obtain ⟨piece, rest, whole⟩ := List.exists_cons_of_ne_nil (pieces_ne_nil isSeparator text)
      exact ⟨piece, rest, whole, whole⟩
  | cons c before ih =>
      obtain ⟨other, others⟩ := List.forall_mem_cons.mp none
      obtain ⟨piece, rest, whole, joined⟩ := ih others
      refine ⟨piece, rest, whole, ?_⟩
      rw [List.cons_append, pieces, other, joined]
      rfl

end Text

namespace FilePath

/-- The components of a path that add something to it. -/
def components (path : FilePath) : List (List Char) :=
  (pieces path.text.toList).filter fun piece => !isEmptyPiece piece

/-- Two paths that differ in components only that add nothing. -/
def Same (left right : FilePath) : Prop :=
  left.isAbsolute = right.isAbsolute ∧ left.components = right.components

instance (left right : FilePath) : Decidable (left.Same right) :=
  inferInstanceAs (Decidable (_ ∧ _))

/-- What a folder is taken for in front of a path: the blanks before it are dropped, and the home
folder is expanded. -/
def inFront (home : String) (folder : FilePath) : FilePath :=
  ⟨expandHome home (String.ofList (Text.trimStart folder.text.toList))⟩

/-- The path of a file in a folder. -/
def child (folder : FilePath) (file : List Char) : FilePath :=
  ⟨folder.text ++ String.ofList ('/' :: file)⟩

/-- A path that starts at the current folder and stays there. -/
def StaysHere (path : FilePath) : Prop :=
  path.text ≠ "" ∧ path.isAbsolute = false ∧ path.components = []

instance (path : FilePath) : Decidable path.StaysHere :=
  inferInstanceAs (Decidable (_ ∧ _))

variable {folder inner : FilePath}

theorem components_append_slash (before after : List Char) :
    components ⟨String.ofList (before ++ '/' :: after)⟩ =
      components ⟨String.ofList before⟩ ++ components ⟨String.ofList after⟩ := by
  simp only [components, pieces, String.toList_ofList]
  rw [Text.pieces_append_cons rfl, List.filter_append]

theorem text_eq_append_slash {text : String} (last : text.toList.getLast? = some '/') :
    ∃ before, text = String.ofList (before ++ ['/']) := by
  obtain ⟨before, whole⟩ := List.getLast?_eq_some_iff.mp last
  exact ⟨before, by rw [← whole, String.ofList_toList]⟩

theorem components_join (relative : inner.isAbsolute = false) :
    (folder.join inner).components = folder.components ++ inner.components := by
  obtain ⟨folder⟩ := folder
  obtain ⟨inner⟩ := inner
  simp only [join, relative, Bool.false_eq_true, if_false]
  split
  · next ends =>
      rcases ends with rfl | last
      · rw [String.empty_append]
        rfl
      · obtain ⟨before, rfl⟩ := text_eq_append_slash last
        have joined : String.ofList (before ++ ['/']) ++ inner =
            String.ofList (before ++ '/' :: inner.toList) := by
          apply String.toList_injective
          simp
        rw [joined, components_append_slash, components_append_slash]
        simp only [String.ofList_toList, List.append_assoc]
        rfl
  · have joined : folder ++ "/" ++ inner =
        String.ofList (folder.toList ++ '/' :: inner.toList) := by
      apply String.toList_injective
      simp
    rw [joined, components_append_slash, String.ofList_toList, String.ofList_toList]

theorem isAbsolute_join (relative : inner.isAbsolute = false) :
    (folder.join inner).isAbsolute = folder.isAbsolute := by
  obtain ⟨folder⟩ := folder
  simp only [join, relative, Bool.false_eq_true, if_false]
  by_cases empty : folder = ""
  · subst empty
    simpa [isAbsolute] using relative
  · have some : folder.toList ≠ [] := fun none => empty (String.toList_eq_nil_iff.mp none)
    obtain ⟨first, rest, whole⟩ := List.exists_cons_of_ne_nil some
    split <;> simp [isAbsolute, whole]

theorem isAbsolute_child (folder : FilePath) (file : List Char) :
    (folder.child file).isAbsolute = (folder.text = "" || folder.isAbsolute) := by
  obtain ⟨folder⟩ := folder
  by_cases empty : folder = ""
  · subst empty
    simp [child, isAbsolute]
  · have some : folder.toList ≠ [] := fun none => empty (String.toList_eq_nil_iff.mp none)
    obtain ⟨first, rest, whole⟩ := List.exists_cons_of_ne_nil some
    simp [child, isAbsolute, whole, empty]

theorem isAbsolute_of_prefix {file : String} {start : List Char}
    (relative : isAbsolute ⟨file⟩ = false) (starts : start <+: file.toList) :
    isAbsolute ⟨String.ofList start⟩ = false := by
  obtain ⟨rest, whole⟩ := starts
  cases start with
  | nil => rfl
  | cons c others => simpa [isAbsolute, ← whole] using relative

theorem components_child (folder : FilePath) (file : List Char) :
    (folder.child file).components = folder.components ++ components ⟨String.ofList file⟩ := by
  obtain ⟨folder⟩ := folder
  have joined : folder ++ String.ofList ('/' :: file) =
      String.ofList (folder.toList ++ '/' :: file) := by
    apply String.toList_injective
    simp
  rw [child, joined, components_append_slash, String.ofList_toList]

theorem join_of_isAbsolute (absolute : inner.isAbsolute = true) : folder.join inner = inner := by
  rw [join, if_pos absolute]

theorem expandHome_of_head?_ne (home : String) {text : String}
    (other : text.toList.head? ≠ some '~') : expandHome home text = text := by
  unfold expandHome
  split
  · next whole => simp [whole] at other
  · next whole => simp [whole] at other
  · rfl

/-- The home folder in front of a slash is the one that stands there alone. -/
theorem expandHome_append_slash (home : String) (before after : List Char) :
    expandHome home (String.ofList (before ++ '/' :: after)) =
      expandHome home (String.ofList before) ++ String.ofList ('/' :: after) := by
  have joined (front : List Char) : String.ofList (front ++ '/' :: after) =
      String.ofList front ++ String.ofList ('/' :: after) := by
    rw [String.ofList_append]
  by_cases tilde : before.head? = some '~'
  · obtain ⟨rest, rfl⟩ := List.head?_eq_some_iff.mp tilde
    cases rest with
    | nil => simp [expandHome]
    | cons c rest =>
        by_cases slash : c = '/'
        · subst slash
          simp [expandHome, String.append_assoc]
        · simp [expandHome, slash, String.append_assoc]
  · rw [expandHome_of_head?_ne home, expandHome_of_head?_ne home, joined]
    · simpa using tilde
    · cases before <;> simp_all

theorem inFront_of_isAbsolute (home : String) (absolute : folder.isAbsolute = true) :
    folder.inFront home = folder := by
  obtain ⟨folder⟩ := folder
  simp only [isAbsolute, beq_iff_eq] at absolute
  obtain ⟨rest, whole⟩ := List.head?_eq_some_iff.mp absolute
  have kept : Text.trimStart folder.toList = folder.toList := by
    rw [whole, Text.trimStart, List.dropWhile_cons_of_neg (by decide)]
  have unexpanded : expandHome home folder = folder :=
    expandHome_of_head?_ne home (by simp [whole])
  rw [inFront, kept, String.ofList_toList, unexpanded]

/-- A path behind its own folder is the path in that folder exactly if the folder is absolute or is
taken for one that adds nothing. -/
theorem same_join_child_iff (home : String) (folder : FilePath) {file : List Char}
    (relative : isAbsolute ⟨String.ofList file⟩ = false) :
    (folder.join ((folder.inFront home).child file)).Same (folder.join ⟨String.ofList file⟩) ↔
      folder.isAbsolute = true ∨ (folder.inFront home).StaysHere := by
  rw [Same, isAbsolute_join relative, components_join relative]
  cases absolute : folder.isAbsolute with
  | true =>
      have behind : (folder.child file).isAbsolute = true := by
        rw [isAbsolute_child, absolute, Bool.or_true]
      rw [inFront_of_isAbsolute home absolute, join_of_isAbsolute behind, behind, components_child]
      simp
  | false =>
      cases behind : ((folder.inFront home).child file).isAbsolute with
      | true =>
          rw [join_of_isAbsolute behind, behind]
          rw [isAbsolute_child, Bool.or_eq_true, decide_eq_true_eq] at behind
          have leaves : ¬ (folder.inFront home).StaysHere := by
            rintro ⟨named, inside, -⟩
            rcases behind with empty | absolute
            · exact named empty
            · rw [inside] at absolute
              cases absolute
          simp [leaves]
      | false =>
          rw [isAbsolute_join behind, components_join behind, components_child, absolute]
          rw [isAbsolute_child, Bool.or_eq_false_iff, decide_eq_false_iff_not] at behind
          rw [List.append_cancel_left_eq, List.append_left_eq_self]
          simp [StaysHere, behind]

section

variable {blanks : List Char} (blank : Text.AllBlank blanks) (some : blanks ≠ [])

include blank some

theorem exists_components_append_blanks (text : List Char) :
    ∃ piece later, components ⟨String.ofList (blanks ++ text)⟩ = (blanks ++ piece) :: later ∧
      (components ⟨String.ofList text⟩ = later ∨
        components ⟨String.ofList text⟩ = piece :: later) := by
  have inside (c : Char) (member : c ∈ blanks) : (c == '/') = false := by
    rw [beq_eq_false_iff_ne]
    rintro rfl
    exact absurd (blank '/' member) (by decide)
  obtain ⟨piece, rest, whole, joined⟩ := Text.exists_pieces_append inside text
  obtain ⟨c, others, rfl⟩ := List.exists_cons_of_ne_nil some
  have counts : isEmptyPiece (c :: others ++ piece) = false := by
    have first : c ≠ '.' := by
      rintro rfl
      exact absurd (blank '.' List.mem_cons_self) (by decide)
    simp [isEmptyPiece, first]
  refine ⟨piece, rest.filter fun piece => !isEmptyPiece piece, ?_, ?_⟩
  · rw [components, pieces, String.toList_ofList, joined]
    exact List.filter_cons_of_pos (by rw [counts]; rfl)
  · rw [components, pieces, String.toList_ofList, whole, List.filter_cons]
    split
    · exact .inr rfl
    · exact .inl rfl

theorem append_components_ne (before : List (List Char)) (text : List Char) :
    before ++ components ⟨String.ofList (blanks ++ text)⟩ ≠
      components ⟨String.ofList text⟩ := by
  obtain ⟨piece, later, spaced, plain⟩ := exists_components_append_blanks blank some text
  rw [spaced]
  intro same
  have length := congrArg List.length same
  rw [List.length_append, List.length_cons] at length
  rcases plain with dropped | kept
  · rw [dropped] at length
    omega
  · rw [kept] at same length
    rw [List.length_cons] at length
    have alone : before = [] := List.length_eq_zero_iff.mp (by omega)
    rw [alone, List.nil_append, List.cons.injEq, List.append_left_eq_self] at same
    exact some same.1

/-- Blanks in front of a path stay behind a folder that is written before them, so the path is not
the one that is joined without them. -/
theorem not_same_join_child (home : String) (folder : FilePath) (file : List Char) :
    ¬ (folder.join ((folder.inFront home).child (blanks ++ file))).Same
      (folder.join ⟨String.ofList file⟩) := by
  have differ := append_components_ne blank some
  rintro ⟨root, components⟩
  cases absolute : isAbsolute ⟨String.ofList file⟩ with
  | true =>
      rw [join_of_isAbsolute absolute] at root components
      cases behind : ((folder.inFront home).child (blanks ++ file)).isAbsolute with
      | true =>
          rw [join_of_isAbsolute behind, components_child] at components
          exact differ _ file components
      | false =>
          rw [components_join behind, components_child, ← List.append_assoc] at components
          exact differ _ file components
  | false =>
      rw [isAbsolute_join absolute] at root
      rw [components_join absolute] at components
      cases behind : ((folder.inFront home).child (blanks ++ file)).isAbsolute with
      | true =>
          rw [join_of_isAbsolute behind] at root components
          rw [behind] at root
          rw [inFront_of_isAbsolute home root.symm, components_child,
            List.append_cancel_left_eq] at components
          exact differ [] file components
      | false =>
          rw [components_join behind, components_child, List.append_cancel_left_eq] at components
          exact differ _ file components

end

end FilePath

/-- A reference to the working folder in front of a text. -/
def workingFolderReference (text : String) : String := "${WorkingDir}/" ++ text

theorem Expansion.expand_workingFolderReference {find : String → Option String} {folder : String}
    (found : find Workspace.workingFolderName = some folder) {text : String}
    (plain : '$' ∉ text.toList) :
    expand find (workingFolderReference text) =
      String.ofList (folder.toList ++ '/' :: text.toList) := by
  have whole : (workingFolderReference text).toList =
      '$' :: '{' :: ("WorkingDir".toList ++ '}' :: '/' :: text.toList) := by
    simp [workingFolderReference]
  have plainToo : '$' ∉ '/' :: text.toList := by simpa using plain
  rw [expand, whole, expandList_braced find (by decide), expandList_of_notMem plainToo, braced,
    splitFallback_of_notMem (by decide)]
  simp only [String.ofList_toList]
  rw [show find "WorkingDir" = some folder from found]

/-- Whether the values of a type are paths. -/
def ParameterType.isPath : ParameterType → Bool
  | .inputFile | .outputFile | .path => true
  | _ => false

namespace Validation

variable {place : Place} {text : String} {value : Value}

theorem eq_path_of_typed {type : ParameterType} (isPath : type.isPath = true) {name : String}
    (spelled : typed place type name text = .ok value) :
    value = .path (place.files.resolve place.workingFolder text) := by
  -- the look-up of the path is left closed, so that nothing unfolds the walk through the files
  unfold typed at spelled
  dsimp only at spelled
  generalize place.files.resolve place.workingFolder text = resolved at spelled ⊢
  cases type with
  | inputFile =>
      dsimp only at spelled
      generalize place.files.isFile resolved = found at spelled
      cases found with
      | true => exact (Except.ok.inj spelled).symm
      | false => cases spelled
  | outputFile =>
      dsimp only at spelled
      generalize missingFolder? place resolved = missing at spelled
      cases missing with
      | none => exact (Except.ok.inj spelled).symm
      | some folder => cases spelled
  | path =>
      exact (Except.ok.inj spelled).symm
  | text | integer | float | boolean | identifier | url => cases isPath

theorem eq_path_of_coerce {parameter : Parameter} (isPath : parameter.type.isPath = true)
    (free : parameter.allowed = []) (coerced : coerce place parameter text = .ok value) :
    value = .path (place.files.resolve place.workingFolder (Text.trimmed text)) := by
  have normal : normalText parameter text = Text.trimmed text := by
    rw [normalText, if_neg]
    rintro ⟨isText, -⟩
    rw [isText] at isPath
    cases isPath
  rw [coerce, if_pos free, normal] at coerced
  exact eq_path_of_typed isPath coerced

end Validation

namespace Processor

/-- The path that a written path denotes: its references are expanded, and what is left without the
blanks around it is resolved. -/
def written (processor : Processor) (files : FileSystem) (text : String) : FilePath :=
  files.resolve processor.workspace.workingFolder
    (Text.trimmed (Expansion.expand processor.workspace.propertyText? text))

section

variable {processor loaded : Processor} {files : FileSystem} {path : FilePath}

/-- A processor with the commands of a file works in the folder of the file. -/
theorem workspace_of_loadFile (loads : processor.loadFile files path = .ok loaded) :
    loaded.workspace =
      processor.workspace.setProperty Workspace.workingFolderName (.path path.folder) := by
  obtain ⟨text, -, loads⟩ := exists_of_bind_eq_ok loads
  cases loads
  rfl

theorem property?_of_loadFile (loads : processor.loadFile files path = .ok loaded) :
    loaded.workspace.property? Workspace.workingFolderName = some (.path path.folder) := by
  rw [workspace_of_loadFile loads, Workspace.property?, Workspace.setProperty]
  exact (OrderedMap.get?_insert ..).trans (if_pos rfl)

theorem workingFolder_of_loadFile (loads : processor.loadFile files path = .ok loaded) :
    loaded.workspace.workingFolder = path.folder := by
  rw [Workspace.workingFolder, property?_of_loadFile loads]

theorem written_workingFolderReference (loads : processor.loadFile files path = .ok loaded)
    (later : FileSystem) {file : String} (plain : '$' ∉ file.toList) :
    loaded.written later (workingFolderReference file) =
      path.folder.join ((path.folder.inFront later.home).child (Text.trimEnd file.toList)) := by
  have found : loaded.workspace.propertyText? Workspace.workingFolderName =
      some path.folder.text := by
    rw [Workspace.propertyText?, property?_of_loadFile loads, Option.map_some, Value.display]
  rw [written, Expansion.expand_workingFolderReference found plain,
    workingFolder_of_loadFile loads, Text.trimmed, String.toList_ofList,
    Text.trim_append_cons (by decide), FileSystem.resolve, FilePath.resolve,
    FilePath.expandHome_append_slash, FilePath.child, FilePath.inFront]

theorem written_of_plain (loads : processor.loadFile files path = .ok loaded)
    (later : FileSystem) {file : String} (plain : '$' ∉ file.toList)
    (noHome : (Text.trim file.toList).head? ≠ some '~') :
    loaded.written later file = path.folder.join ⟨Text.trimmed file⟩ := by
  rw [written, Expansion.expand_of_notMem plain, workingFolder_of_loadFile loads,
    FileSystem.resolve, FilePath.resolve, FilePath.expandHome_of_head?_ne]
  rwa [Text.toList_trimmed]

/-- The reference to the working folder in front of a relative path may be left out exactly if no
blanks stand in front of the path, and the folder of the command file is an absolute path or is
taken for one that adds nothing.  In both spellings a path parameter has the path as its value that
the written text denotes. -/
theorem same_written_reference_iff (loads : processor.loadFile files path = .ok loaded)
    (later : FileSystem) {file : String} (relative : FilePath.isAbsolute ⟨file⟩ = false)
    (plain : '$' ∉ file.toList) (noHome : (Text.trim file.toList).head? ≠ some '~') :
    (∀ parameter : Parameter, parameter.type.isPath = true → parameter.allowed = [] →
      ∀ text value,
        Validation.coerce ⟨later, loaded.workspace.workingFolder⟩ parameter
          (Expansion.expand loaded.workspace.propertyText? text) = .ok value →
        value = .path (loaded.written later text)) ∧
    ((loaded.written later (workingFolderReference file)).Same (loaded.written later file) ↔
      Text.trimEnd file.toList = Text.trim file.toList ∧
        (path.folder.isAbsolute = true ∨ (path.folder.inFront later.home).StaysHere)) := by
  constructor
  · intro parameter isPath free text value coerced
    have resolved := Validation.eq_path_of_coerce isPath free coerced
    exact resolved
  · obtain ⟨blanks, blank, spaced⟩ := Text.exists_blanks_in_front file.toList
    rw [written_workingFolderReference loads later plain, written_of_plain loads later plain noHome,
      Text.trimmed]
    by_cases none : blanks = []
    · subst none
      rw [List.nil_append] at spaced
      have inside : FilePath.isAbsolute ⟨String.ofList (Text.trim file.toList)⟩ = false :=
        FilePath.isAbsolute_of_prefix relative (spaced ▸ Text.trimEnd_prefix file.toList)
      rw [spaced, FilePath.same_join_child_iff later.home path.folder inside]
      exact (and_iff_right rfl).symm
    · have differ := FilePath.not_same_join_child blank none later.home path.folder
        (Text.trim file.toList)
      rw [spaced, List.append_left_eq_self]
      exact iff_of_false differ fun both => none both.1

/-- A file system with an empty command file in a folder below the current one. -/
def nestedFile : FileSystem :=
  ((FileSystem.empty ["work"] "/home").addFolder ["work", "sub"]).store ["work", "sub", "w.gp"]
    .empty

/-- An absolute folder may be named by the reference or not at all. -/
theorem same_written_reference_absolute :
    ∃ loaded, (create Builtin.registry {} nestedFile 0).loadFile nestedFile ⟨"/work/sub/w.gp"⟩ =
        .ok loaded ∧
      loaded.written nestedFile (workingFolderReference "layers/./a.csv ") =
        ⟨"/work/sub/layers/./a.csv"⟩ ∧
      (loaded.written nestedFile (workingFolderReference "layers/./a.csv ")).Same
        (loaded.written nestedFile "layers/./a.csv ") := by
  obtain ⟨loaded, loads⟩ : ∃ loaded, (create Builtin.registry {} nestedFile 0).loadFile nestedFile
      ⟨"/work/sub/w.gp"⟩ = .ok loaded := ⟨_, rfl⟩
  have plain : '$' ∉ "layers/./a.csv ".toList := by decide
  obtain ⟨-, denotes⟩ :=
    same_written_reference_iff loads nestedFile (by decide) plain (by decide)
  refine ⟨loaded, loads, ?_, denotes.mpr ⟨by decide, .inl (by decide)⟩⟩
  exact (written_workingFolderReference loads nestedFile plain).trans (by decide +kernel)

/-- In a folder below the current one, the reference leads to a folder of the same name inside. -/
theorem reference_names_folder_twice :
    ∃ loaded, (create Builtin.registry {} nestedFile 0).loadFile nestedFile ⟨"sub/w.gp"⟩ =
        .ok loaded ∧
      loaded.written nestedFile (workingFolderReference "t.csv") = ⟨"sub/sub/t.csv"⟩ ∧
      loaded.written nestedFile "t.csv" = ⟨"sub/t.csv"⟩ ∧
      ¬ (loaded.written nestedFile (workingFolderReference "t.csv")).Same
        (loaded.written nestedFile "t.csv") := by
  exact ⟨_, rfl, by decide +kernel, by decide +kernel, by decide +kernel⟩

end

end Processor

end Workflow
