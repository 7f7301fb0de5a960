import AetherMesh.Library.Fields
import AetherMesh.Library.FileTree
import AetherMesh.Wasm.HostCalls

/-!
The directory that a module is granted, on a disk with symbolic links that stands still during a
call. A requested path may go anywhere on its way; what counts is the real place that it leads to.
-/

namespace AetherMesh

open FileTree ShortReads

inductive Contents
  | regular (content : Bytes)
  | special
deriving DecidableEq

/-- Reading a regular file from an offset on gives a front of what it holds there, and reading a
directory gives nothing. -/
structure Disk where
  tree : FileTree.Tree Contents
  workingDirectory : List String
  held : Held tree workingDirectory
  links : Nat
  deliver : List String → Option (Nat → Option (List (Read UInt8)))
  honest : ∀ path content seek offset reads,
    tree.node path = some (.file (.regular content)) → deliver path = some seek →
      seek offset = some reads → stream reads <+: content.drop offset
  directories : ∀ path seek offset reads, tree.node path = some .directory →
    deliver path = some seek → seek offset = some reads → stream reads = []

def isAbsolute (path : String) : Bool := path.toList.head? = some '/'

/-- `Path::join` puts a separator between the two, unless there is one or the first is empty. -/
def joinPath (root relative : String) : String :=
  if isAbsolute relative then relative
  else if root = "" ∨ root.toList.getLast? = some '/' then root ++ relative
  else root ++ "/" ++ relative

def pathStep (part : List Char) : FileTree.Step :=
  if part = [] ∨ part = ['.'] then .current
  else if part = ['.', '.'] then .parent
  else .name (String.ofList part)

def pathSteps (path : String) : List FileTree.Step := (path.toList.splitOn '/').map pathStep

namespace Disk

def canonicalize (disk : Disk) (path : String) : Option (List String) :=
  if path = "" ∨ '\x00' ∈ path.toList then none
  else
    resolve disk.tree disk.links (if isAbsolute path then [] else disk.workingDirectory)
      (pathSteps path)

def host (disk : Disk) : Host where
  isAbsolute := AetherMesh.isAbsolute
  join := joinPath
  canonicalize := disk.canonicalize
  openFile := disk.deliver

end Disk

def fileSize (disk : Disk) (root : Option String) (requested : String) : Int64 :=
  match root.bind fun root => resolveInRoot disk.host root requested with
  | none => -1
  | some path =>
      match disk.tree.node path with
      | some (.file (.regular content)) =>
          if content.length ≤ 2 ^ 63 - 1 then .ofNat content.length else -1
      | _ => -1

/-- What reading at a real path may give: no link stands on the path or at its end. -/
inductive Disk.Readable (disk : Disk) (offset : Nat) : List String → Bytes → Prop
  | regular {path name content data} (held : Held disk.tree path)
      (stands : disk.tree.node (path ++ [name]) = some (.file (.regular content)))
      (front : data <+: content.drop offset) : Readable disk offset (path ++ [name]) data
  | special {path name data} (held : Held disk.tree path)
      (stands : disk.tree.node (path ++ [name]) = some (.file .special)) :
      Readable disk offset (path ++ [name]) data
  | directory {path} (held : Held disk.tree path) : Readable disk offset path []

/-- The two disks differ at most in what their files outside the root hold and how it is read. -/
structure Disk.AlikeInside (root : String) (left right : Disk) : Prop where
  workingDirectory : left.workingDirectory = right.workingDirectory
  links : left.links = right.links
  shape : SameShape left.tree right.tree
  inside : ∀ realRoot path, left.canonicalize root = some realRoot → realRoot <+: path →
    left.tree.node path = right.tree.node path ∧ left.deliver path = right.deliver path

def Disk.Serves (disk : Disk) (path : List String) (offset : Nat) (content : Bytes) : Prop :=
  ∃ seek reads, disk.deliver path = some seek ∧ seek offset = some reads ∧
    stream reads = content.drop offset ∧ stopsFailing reads = false

/-- A name that is no step of another kind and holds no separator. -/
structure PlainName (name : String) : Prop where
  occupied : name ≠ ""
  notCurrent : name ≠ "."
  notParent : name ≠ ".."
  whole : '/' ∉ name.toList
  noNul : '\x00' ∉ name.toList

def plainPath (names : List String) : String :=
  String.ofList (List.intercalate ['/'] (names.map String.toList))

section

variable {disk left right : Disk} {width : UsizeWidth} {root requested : String}
  {path realRoot names : List String} {offset : Int64} {memory after : Bytes} {ptr len : Int32}
  {result : Int32} {reads : List (Read UInt8)}

theorem canonicalize_real (found : disk.canonicalize root = some path) : Real disk.tree path := by
  rw [Disk.canonicalize] at found
  split at found
  · cases found
  · refine resolve_real ?_ found
    split
    · exact held_root
    · exact disk.held

theorem resolveInRoot_inside (resolved : resolveInRoot disk.host root requested = some path) :
    Real disk.tree path ∧
      ∃ realRoot, disk.canonicalize root = some realRoot ∧ realRoot <+: path := by
  rw [resolveInRoot] at resolved
  split at resolved
  · cases resolved
  · obtain ⟨realRoot, granted, resolved⟩ := Option.bind_eq_some_iff.mp resolved
    obtain ⟨realPath, found, resolved⟩ := Option.bind_eq_some_iff.mp resolved
    split at resolved
    · rename_i inside
      rw [Option.some.injEq] at resolved
      subst resolved
      exact ⟨canonicalize_real found, realRoot, granted, inside⟩
    · cases resolved

theorem Disk.readable {seek : Nat → Option (List (Read UInt8))} {place : Nat}
    (real : Real disk.tree path) (opened : disk.deliver path = some seek)
    (found : seek place = some reads) : disk.Readable place path (stream reads) := by
  cases real with
  | directory held =>
      have nothing := disk.directories _ _ _ _ (held _ List.prefix_rfl) opened found
      rw [nothing]
      exact .directory held
  | @file above name content held stands =>
      cases content with
      | regular content => exact .regular held stands (disk.honest _ _ _ _ _ stands opened found)
      | special => exact .special held stands

theorem tryU64_eq_some {value : Int64} {place : Nat} (position : tryU64 value = some place) :
    place = value.toInt.toNat := by
  rw [tryU64] at position
  split at position
  · exact (Option.some.inj position).symm
  · cases position

theorem fileReads_inside
    (read : fileReads disk.host (some root) requested offset = some reads) :
    ∃ realRoot names, disk.canonicalize root = some realRoot ∧
      disk.Readable offset.toInt.toNat (realRoot ++ names) (stream reads) := by
  obtain ⟨path, seek, place, resolved, opened, position, found⟩ := fileReads_eq_some.mp read
  obtain ⟨real, realRoot, granted, names, rfl⟩ := resolveInRoot_inside resolved
  have readable := Disk.readable real opened found
  rw [tryU64_eq_some position] at readable
  exact ⟨realRoot, names, granted, readable⟩

theorem fileSize_inside (known : fileSize disk (some root) requested ≠ -1) :
    ∃ realRoot names content, disk.canonicalize root = some realRoot ∧
      Real disk.tree (realRoot ++ names) ∧
      disk.tree.node (realRoot ++ names) = some (.file (.regular content)) ∧
      (fileSize disk (some root) requested).toInt = content.length := by
  unfold fileSize at known ⊢
  cases resolved : resolveInRoot disk.host root requested with
  | none => simp [resolved] at known
  | some path =>
      obtain ⟨real, realRoot, granted, names, rfl⟩ := resolveInRoot_inside resolved
      simp only [Option.bind_some, resolved] at known ⊢
      split at known
      · rename_i content stands
        split at known
        · rename_i fits
          refine ⟨realRoot, names, content, granted, real, stands, ?_⟩
          rw [if_pos fits]
          exact Int64.toInt_ofNat_of_lt (by omega)
        · exact absurd rfl known
      · exact absurd rfl known

/-- What a module gets to see of a file, or of its size, is what stands at a real place beneath the
granted root. -/
theorem module_reads_inside (disk : Disk) (width : UsizeWidth) (root requested : String)
    (offset : Int64) (memory : Bytes) (ptr len : Int32) :
    (fileRead disk.host width (some root) requested offset memory ptr len = some (-1, memory) ∨
      ∃ realRoot names data result, disk.canonicalize root = some realRoot ∧
        disk.Readable offset.toInt.toNat (realRoot ++ names) data ∧
        fileRead disk.host width (some root) requested offset memory ptr len =
          some (result, overwrite memory ptr.toInt.toNat (data.take len.toInt.toNat)) ∧
        (result = -1 ∨ result = .ofNat (min data.length len.toInt.toNat))) ∧
    (fileSize disk (some root) requested = -1 ∨
      ∃ realRoot names content, disk.canonicalize root = some realRoot ∧
        Real disk.tree (realRoot ++ names) ∧
        disk.tree.node (realRoot ++ names) = some (.file (.regular content)) ∧
        (fileSize disk (some root) requested).toInt = content.length) := by
  constructor
  · cases read : fileReads disk.host (some root) requested offset with
    | none => exact Or.inl (fileRead_refused read)
    | some reads =>
        by_cases outside : Outside memory ptr len
        · exact Or.inl (fileRead_outside outside)
        · obtain ⟨realRoot, names, granted, readable⟩ := fileReads_inside read
          refine Or.inr ⟨realRoot, names, stream reads, _, granted, readable,
            fileRead_inside read outside, ?_⟩
          split
          · exact Or.inl rfl
          · exact Or.inr rfl
  · by_cases unknown : fileSize disk (some root) requested = -1
    · exact Or.inl unknown
    · exact Or.inr (fileSize_inside unknown)

theorem canonicalize_alike (alike : left.AlikeInside root right) (text : String) :
    left.canonicalize text = right.canonicalize text := by
  simp only [Disk.canonicalize, alike.workingDirectory, alike.links, resolve_alike alike.shape]

theorem resolveInRoot_alike (alike : left.AlikeInside root right) :
    resolveInRoot left.host root requested = resolveInRoot right.host root requested := by
  have same : left.host.canonicalize = right.host.canonicalize :=
    funext (canonicalize_alike alike)
  rw [resolveInRoot, resolveInRoot, same]
  rfl

/-- Nothing that a module gets depends on what files outside the granted root hold. -/
theorem outside_unseen (alike : left.AlikeInside root right) :
    fileRead left.host width (some root) requested offset memory ptr len =
        fileRead right.host width (some root) requested offset memory ptr len ∧
      fileSize left (some root) requested = fileSize right (some root) requested := by
  have same : resolveInRoot left.host root requested = resolveInRoot right.host root requested :=
    resolveInRoot_alike alike
  rw [fileRead, fileRead, fileSize, fileSize, Option.bind_some, Option.bind_some, same]
  cases resolved : resolveInRoot right.host root requested with
  | none => exact ⟨rfl, rfl⟩
  | some path =>
      obtain ⟨-, realRoot, granted, inside⟩ := resolveInRoot_inside (same.trans resolved)
      obtain ⟨node, delivered⟩ := alike.inside realRoot path granted inside
      simp only [Disk.host, delivered, node, and_self]

theorem pathStep_plain {name : String} (plain : PlainName name) :
    pathStep name.toList = .name name := by
  have occupied : name.toList ≠ [] := fun empty => plain.occupied (String.toList_inj.mp empty)
  have notCurrent : name.toList ≠ ['.'] := fun same => plain.notCurrent (String.toList_inj.mp same)
  have notParent : name.toList ≠ ['.', '.'] := fun same => plain.notParent (String.toList_inj.mp same)
  rw [pathStep, if_neg (not_or.mpr ⟨occupied, notCurrent⟩), if_neg notParent, String.ofList_toList]

theorem pathSteps_plain (plain : ∀ name ∈ names, PlainName name) (occupied : names ≠ []) :
    pathSteps (plainPath names) = names.map .name := by
  have clean : ∀ part ∈ names.map String.toList, '/' ∉ part := by
    intro part listed
    obtain ⟨name, among, rfl⟩ := List.mem_map.mp listed
    exact (plain name among).whole
  have split : (plainPath names).toList.splitOn '/' = names.map String.toList := by
    rw [plainPath, String.toList_ofList]
    exact List.splitOn_intercalate '/' clean (by simpa using occupied)
  rw [pathSteps, split, List.map_map]
  apply List.map_congr_left
  intro name among
  exact pathStep_plain (plain name among)

theorem pathSteps_joined {text front back : String}
    (joined : text.toList = front.toList ++ '/' :: back.toList) :
    pathSteps text = pathSteps front ++ pathSteps back := by
  rw [pathSteps, pathSteps, pathSteps, joined, List.splitOn_append_cons_self, List.map_append]

theorem mem_plainPath {char : Char} (within : char ∈ (plainPath names).toList) :
    char = '/' ∨ ∃ name ∈ names, char ∈ name.toList := by
  rw [plainPath, String.toList_ofList] at within
  rcases Fields.mem_intercalate within with separator | ⟨part, among, inside⟩
  · exact Or.inl separator
  · obtain ⟨name, listed, rfl⟩ := List.mem_map.mp among
    exact Or.inr ⟨name, listed, inside⟩

theorem plainPath_clean (plain : ∀ name ∈ names, PlainName name) :
    '\x00' ∉ (plainPath names).toList := by
  intro within
  rcases mem_plainPath within with separator | ⟨name, among, inside⟩
  · exact absurd separator (by decide)
  · exact (plain name among).noNul inside

theorem plainPath_relative (plain : ∀ name ∈ names, PlainName name) :
    isAbsolute (plainPath names) = false := by
  cases names with
  | nil => decide
  | cons name rest =>
      have named := plain name List.mem_cons_self
      have front : name.toList <+: (plainPath (name :: rest)).toList := by
        rw [plainPath, String.toList_ofList, List.map_cons]
        by_cases last : rest = []
        · subst last
          rw [List.map_nil, List.intercalate_singleton]
        · rw [List.intercalate_cons_of_ne_nil (by simpa using last), List.append_assoc]
          exact List.prefix_append _ _
      cases spelled : name.toList with
      | nil => exact absurd (String.toList_inj.mp spelled) named.occupied
      | cons first more =>
          rw [spelled] at front
          obtain ⟨later, same⟩ := front
          rw [isAbsolute, ← same, List.cons_append, List.head?_cons, decide_eq_false_iff_not,
            Option.some.injEq]
          intro separator
          exact named.whole (by rw [spelled, separator]; exact List.mem_cons_self)

theorem joinPath_relative (occupied : root ≠ "") (relative : isAbsolute requested = false) :
    (joinPath root requested).toList =
      root.toList ++ (if root.toList.getLast? = some '/' then [] else ['/']) ++
        requested.toList := by
  rw [joinPath, relative, if_neg Bool.false_ne_true]
  by_cases ends : root.toList.getLast? = some '/'
  · rw [if_pos (Or.inr ends), if_pos ends, String.toList_append, List.append_nil]
  · rw [if_neg (not_or.mpr ⟨occupied, ends⟩), if_neg ends, String.toList_append,
      String.toList_append]
    rfl

theorem joinPath_proper (proper : ¬(root = "" ∨ '\x00' ∈ root.toList))
    (relative : isAbsolute requested = false) (clean : '\x00' ∉ requested.toList) :
    ¬(joinPath root requested = "" ∨ '\x00' ∈ (joinPath root requested).toList) ∧
      isAbsolute (joinPath root requested) = isAbsolute root := by
  obtain ⟨occupied, noNul⟩ := not_or.mp proper
  have spelled := joinPath_relative occupied relative
  have begun : root.toList ≠ [] := fun empty => occupied (String.toList_inj.mp empty)
  refine ⟨not_or.mpr ⟨?_, ?_⟩, ?_⟩
  · intro empty
    rw [empty, List.append_assoc] at spelled
    exact begun (List.append_eq_nil_iff.mp spelled.symm).1
  · rw [spelled]
    intro within
    rcases List.mem_append.mp within with front | later
    · rcases List.mem_append.mp front with own | between
      · exact noNul own
      · split at between
        · cases between
        · exact absurd (List.mem_singleton.mp between) (by decide)
    · exact clean later
  · rw [isAbsolute, isAbsolute, spelled, List.append_assoc, List.head?_append_of_ne_nil _ begun]

theorem joinPath_steps (occupied : root ≠ "") (relative : isAbsolute requested = false) :
    ∃ steps, pathSteps (joinPath root requested) = steps ++ pathSteps requested ∧
      (pathSteps root = steps ∨ pathSteps root = steps ++ [.current]) := by
  have spelled := joinPath_relative occupied relative
  by_cases ends : root.toList.getLast? = some '/'
  · obtain ⟨front, rooted⟩ := List.getLast?_eq_some_iff.mp ends
    rw [if_pos ends, List.append_nil, rooted, List.append_assoc] at spelled
    refine ⟨pathSteps (String.ofList front), ?_, Or.inr ?_⟩
    · apply pathSteps_joined
      rw [spelled, String.toList_ofList]
      rfl
    · refine @pathSteps_joined root (String.ofList front) "" ?_
      rw [rooted, String.toList_ofList]
      rfl
  · rw [if_neg ends, List.append_assoc] at spelled
    exact ⟨pathSteps root, pathSteps_joined spelled, Or.inl rfl⟩

/-- A real path beneath the root is found under its plain name. -/
theorem resolveInRoot_plain (granted : disk.canonicalize root = some realRoot)
    (plain : ∀ name ∈ names, PlainName name) (occupied : names ≠ [])
    (real : Real disk.tree (realRoot ++ names)) :
    resolveInRoot disk.host root (plainPath names) = some (realRoot ++ names) := by
  have relative := plainPath_relative plain
  have clean := plainPath_clean plain
  have reached : disk.canonicalize (joinPath root (plainPath names)) = some (realRoot ++ names) := by
    rw [Disk.canonicalize] at granted ⊢
    split at granted
    · cases granted
    · rename_i proper
      obtain ⟨sound, absolute⟩ := joinPath_proper proper relative clean
      obtain ⟨steps, joined, ending⟩ := joinPath_steps (not_or.mp proper).1 relative
      rw [if_neg sound, absolute, joined, pathSteps_plain plain occupied]
      refine resolve_onward real ?_
      rcases ending with same | closed
      · rw [same] at granted
        exact resolve_stays (real.above occupied) granted
      · rwa [closed] at granted
  rw [resolveInRoot, if_neg, Disk.host]
  · simp only [granted, reached, Option.bind_eq_bind, Option.bind_some]
    exact if_pos (List.prefix_append _ _)
  · simp [Disk.host, relative, clean]

/-- A file beneath the root is read and measured under its plain name. -/
theorem plain_file_served {content : Bytes} (granted : disk.canonicalize root = some realRoot)
    (plain : ∀ name ∈ names, PlainName name) (occupied : names ≠ [])
    (real : Real disk.tree (realRoot ++ names))
    (stands : disk.tree.node (realRoot ++ names) = some (.file (.regular content)))
    (position : 0 ≤ offset.toInt) (inside : ¬Outside memory ptr len)
    (serves : disk.Serves (realRoot ++ names) offset.toInt.toNat content) :
    fileRead disk.host width (some root) (plainPath names) offset memory ptr len =
        some (.ofNat (min (content.length - offset.toInt.toNat) len.toInt.toNat),
          overwrite memory ptr.toInt.toNat
            ((content.drop offset.toInt.toNat).take len.toInt.toNat)) ∧
      (content.length ≤ 2 ^ 63 - 1 →
        fileSize disk (some root) (plainPath names) = .ofNat content.length) := by
  have resolved := resolveInRoot_plain granted plain occupied real
  obtain ⟨seek, reads, opened, found, whole, unfailing⟩ := serves
  constructor
  · have placed : tryU64 offset = some offset.toInt.toNat := if_pos position
    have read : fileReads disk.host (some root) (plainPath names) offset = some reads := by
      rw [fileReads_eq_some]
      exact ⟨_, seek, _, resolved, opened, placed, found⟩
    rw [fileRead_inside read inside, whole, unfailing, List.length_drop]
    rw [if_neg (fun stops => Bool.false_ne_true stops.2)]
  · intro fits
    rw [fileSize, Option.bind_some, resolved]
    simp only [stands, if_pos fits]

end

theorem stream_once (data : Bytes) : stream [.delivered data] = data := by
  cases data with
  | nil => rfl
  | cons first more => exact List.append_nil (first :: more)

def Disk.ofTree (tree : FileTree.Tree Contents) (links : Nat) : Disk where
  tree := tree
  workingDirectory := []
  held := held_root
  links := links
  deliver path :=
    match tree.node path with
    | some (.file (.regular content)) => some fun offset => some [.delivered (content.drop offset)]
    | some (.file .special) => some fun _ => none
    | _ => none
  honest path content seek offset reads stands opened found := by
    simp only [stands, Option.some.injEq] at opened
    subst opened
    rw [Option.some.injEq] at found
    subst found
    exact (stream_once _).symm ▸ List.prefix_rfl
  directories path seek offset reads stands opened found := by
    simp only [stands, reduceCtorEq] at opened

def linkedTree (secret : Bytes) : FileTree.Tree Contents where
  node
    | [] | ["data"] | ["etc"] => some .directory
    | ["data", "parts"] => some (.file (.regular [7, 8, 9]))
    | ["data", "out"] => some (.link ⟨true, [.name "etc"]⟩)
    | ["etc", "key"] => some (.file (.regular secret))
    | _ => none
  root := rfl

theorem linkedTree_alike : Disk.AlikeInside "/data" (Disk.ofTree (linkedTree [1]) 40)
    (Disk.ofTree (linkedTree [2]) 40) := by
  have granted : (Disk.ofTree (linkedTree [1]) 40).canonicalize "/data" = some ["data"] := by
    decide
  refine ⟨rfl, rfl, ?_, ?_⟩
  · intro path
    simp only [Disk.ofTree, linkedTree]
    split <;> rfl
  · intro realRoot path rooted inside
    rw [granted, Option.some.injEq] at rooted
    subst rooted
    obtain ⟨rest, rfl⟩ := inside
    have node : (linkedTree [1]).node (["data"] ++ rest) =
        (linkedTree [2]).node (["data"] ++ rest) := by
      simp only [linkedTree, List.singleton_append]
      split <;> simp_all
    refine ⟨node, ?_⟩
    simp only [Disk.ofTree, node]

theorem key_unseen :
    fileRead (Disk.ofTree (linkedTree [1]) 40).host .w64 (some "/data") "out/key" 0 [0] 0 1 =
        fileRead (Disk.ofTree (linkedTree [2]) 40).host .w64 (some "/data") "out/key" 0 [0] 0 1 ∧
      fileSize (Disk.ofTree (linkedTree [1]) 40) (some "/data") "out/key" =
        fileSize (Disk.ofTree (linkedTree [2]) 40) (some "/data") "out/key" :=
  outside_unseen linkedTree_alike

theorem parts_served :
    fileRead (Disk.ofTree (linkedTree [1]) 40).host .w64 (some "/data/") "parts" 1 [0, 0, 0] 0 3 =
        some (2, [8, 9, 0]) ∧
      fileSize (Disk.ofTree (linkedTree [1]) 40) (some "/data/") "parts" = 3 := by
  have granted : (Disk.ofTree (linkedTree [1]) 40).canonicalize "/data/" = some ["data"] := by
    decide
  have plain : ∀ name ∈ ["parts"], PlainName name := by
    intro name listed
    rw [List.mem_singleton.mp listed]
    constructor <;> decide
  have held : Held (Disk.ofTree (linkedTree [1]) 40).tree ["data"] := by
    apply held_root.enter
    rfl
  have inside : ¬Outside [0, 0, 0] 0 3 := by
    rw [Outside]
    decide
  have serves : (Disk.ofTree (linkedTree [1]) 40).Serves ["data", "parts"] 1 [7, 8, 9] :=
    ⟨_, _, rfl, rfl, rfl, rfl⟩
  have served := @plain_file_served _ .w64 _ _ _ 1 _ 0 3 _ granted plain (by decide)
    (.file held rfl) rfl (by decide) inside serves
  exact ⟨served.1, served.2 (by decide)⟩

end AetherMesh
