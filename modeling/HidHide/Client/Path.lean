import Mathlib.Data.List.DropRight
import Mathlib.Data.List.Lex
import HidHide.Client.Utils

/-!
# Paths

`std::filesystem::path` on Windows, as far as the client uses it: a path is its text, of which the
root name and the root directory are found by the rules of the library, paths are joined by
`operator/`, and ordered element by element.

Paths that differ in their separators only are equal (`PathEq`), though they are different texts.
-/

namespace HidHide

def backslash : WChar := 0x5C
def slash : WChar := 0x2F
def colon : WChar := 0x3A
def dot : WChar := 0x2E
def questionMark : WChar := 0x3F

/-- A separator. -/
def isSlash (c : WChar) : Bool := c = backslash || c = slash

/-- A letter from A to Z, of either case. -/
def isDriveLetter (c : WChar) : Bool := (0x41 ≤ c && c ≤ 0x5A) || (0x61 ≤ c && c ≤ 0x7A)

/-- The path starts with a drive, as in `X:`. -/
def hasDriveLetterPrefix : WString → Bool
  | c :: d :: _ => isDriveLetter c && d = colon
  | _ => false

/-- The path starts with a device prefix, as in `\\?\x`, `\\.\x` or `\??\x`. -/
def isDevicePrefix : WString → Bool
  | b :: c :: d :: e :: rest =>
      isSlash b && isSlash e && !rest.head?.any isSlash &&
        ((isSlash c && (d = questionMark || d = dot)) || (c = questionMark && d = questionMark))
  | _ => false

/-- The path starts with a server, as in `\\server`. -/
def isServerPrefix : WString → Bool
  | b :: c :: d :: _ => isSlash b && isSlash c && !isSlash d
  | _ => false

/-- The length of the root name: the drive, the device prefix without its last separator, or the
server. -/
def rootNameLength (path : WString) : ℕ :=
  if hasDriveLetterPrefix path then 2
  else if isDevicePrefix path then 3
  else if isServerPrefix path then 3 + ((path.drop 3).takeWhile (!isSlash ·)).length
  else 0

/-- `path::root_name`. -/
def rootName (path : WString) : WString := path.take (rootNameLength path)

/-- The path without its root name. -/
def afterRootName (path : WString) : WString := path.drop (rootNameLength path)

/-- `path::has_root_directory`. -/
def hasRootDirectory (path : WString) : Bool := (afterRootName path).head?.any isSlash

/-- `path::relative_path`. -/
def relativePath (path : WString) : WString := (afterRootName path).dropWhile isSlash

/-- `path::is_absolute`: a drive alone does not make a path absolute, any other root name does. -/
def isAbsolute (path : WString) : Bool :=
  if hasDriveLetterPrefix path then (path.drop 2).head?.any isSlash else rootNameLength path ≠ 0

/-- The separator that `operator/` puts behind the path. -/
def joinSeparator (path : WString) : WString :=
  if rootNameLength path = path.length then
    if 3 ≤ rootNameLength path then [backslash] else []
  else if path.getLast?.any isSlash then []
  else [backslash]

/-- `path::operator/`. -/
def joinPath (path other : WString) : WString :=
  if isAbsolute other then other
  else if rootName other ≠ [] ∧ rootName path ≠ rootName other then other
  else if hasRootDirectory other then rootName path ++ afterRootName other
  else path ++ joinSeparator path ++ afterRootName other

/-- The file name of the path, up to the first colon: an alternate data stream does not count. -/
def fileNameOf (path : WString) : WString :=
  ((relativePath path).rtakeWhile (!isSlash ·)).takeWhile (· ≠ colon)

/-- `path::extension`: from the last dot of the file name, if that is not its first character. -/
def extension (path : WString) : WString :=
  let fileName := fileNameOf path
  let afterDot := fileName.rtakeWhile (· ≠ dot)
  if fileName = [dot, dot] ∨ fileName.length ≤ afterDot.length + 1 then [] else dot :: afterDot

/-! ### Root names -/

theorem rootName_append_afterRootName (path : WString) :
    rootName path ++ afterRootName path = path := List.take_append_drop _ _

theorem rootNameLength_of_hasDriveLetterPrefix {path : WString} (h : hasDriveLetterPrefix path) :
    rootNameLength path = 2 := by rw [rootNameLength, if_pos h]

/-- Only a drive is a root name that does not start with a separator. -/
theorem rootNameLength_of_not_isSlash {path : WString} (h : path.head?.any isSlash = false) :
    rootNameLength path = if hasDriveLetterPrefix path then 2 else 0 := by
  have hdevice : isDevicePrefix path = false := by
    rw [isDevicePrefix.eq_def]
    split
    · simp_all
    · rfl
  have hserver : isServerPrefix path = false := by
    rw [isServerPrefix.eq_def]
    split
    · simp_all
    · rfl
  rw [rootNameLength, hdevice, hserver]
  rfl

/-- A path without a root name is relative. -/
theorem isAbsolute_of_rootNameLength {path : WString} (h : rootNameLength path = 0) :
    isAbsolute path = false := by
  have hdrive : hasDriveLetterPrefix path = false := by
    rw [← Bool.not_eq_true]
    intro hdrive
    rw [rootNameLength_of_hasDriveLetterPrefix hdrive] at h
    exact absurd h (by decide)
  rw [isAbsolute, hdrive, h]
  rfl

theorem rootName_eq_nil_iff {path : WString} : rootName path = [] ↔ rootNameLength path = 0 := by
  rw [rootName, List.take_eq_nil_iff]
  refine ⟨fun h => h.elim id fun h => ?_, .inl⟩
  rw [h]
  rfl

/-- A path without a root name has a root directory if it starts with a separator. -/
theorem hasRootDirectory_of_rootNameLength {path : WString} (h : rootNameLength path = 0) :
    hasRootDirectory path = path.head?.any isSlash := by
  rw [hasRootDirectory, afterRootName, h, List.drop_zero]

/-- A root name does not end in a separator. -/
theorem getLast?_rootName {path : WString} {c : WChar} (h : c ∈ (rootName path).getLast?) :
    isSlash c = false := by
  rw [rootName, rootNameLength] at h
  split_ifs at h with hdrive hdevice hserver
  · -- the colon
    rcases path with _ | ⟨b, _ | ⟨d, rest⟩⟩
    · simp [hasDriveLetterPrefix] at hdrive
    · simp [hasDriveLetterPrefix] at hdrive
    · have hcolon : isDriveLetter b = true ∧ d = colon := by
        simpa [hasDriveLetterPrefix] using hdrive
      obtain rfl : d = c := by simpa using h
      rw [hcolon.2]
      rfl
  · -- the question mark or the dot
    rcases path with _ | ⟨b, _ | ⟨d, _ | ⟨e, _ | ⟨f, rest⟩⟩⟩⟩
    · simp [isDevicePrefix] at hdevice
    · simp [isDevicePrefix] at hdevice
    · simp [isDevicePrefix] at hdevice
    · simp [isDevicePrefix] at hdevice
    · have hmark : (isSlash d = true ∧ (e = questionMark ∨ e = dot)) ∨
          d = questionMark ∧ e = questionMark := by
        simpa [isDevicePrefix] using (Bool.and_eq_true_iff.mp hdevice).2
      obtain rfl : e = c := by simpa using h
      rcases hmark with ⟨-, rfl | rfl⟩ | ⟨-, rfl⟩ <;> rfl
  · -- the last character of the server
    rcases path with _ | ⟨b, _ | ⟨d, _ | ⟨e, rest⟩⟩⟩
    · simp [isServerPrefix] at hserver
    · simp [isServerPrefix] at hserver
    · simp [isServerPrefix] at hserver
    · have hserver' : (isSlash b = true ∧ isSlash d = true) ∧ isSlash e = false := by
        simpa [isServerPrefix] using hserver
      have htake : (b :: d :: e :: rest).take (3 + (rest.takeWhile (!isSlash ·)).length) =
          b :: d :: e :: rest.takeWhile (!isSlash ·) := by
        rw [show 3 + (rest.takeWhile (!isSlash ·)).length =
          (rest.takeWhile (!isSlash ·)).length + 1 + 1 + 1 by omega, List.take_succ_cons,
          List.take_succ_cons, List.take_succ_cons,
          List.prefix_iff_eq_take.mp (List.takeWhile_prefix (!isSlash ·))]
        simp
      rw [List.drop_succ_cons, List.drop_succ_cons, List.drop_succ_cons, List.drop_zero, htake] at h
      rcases hname : rest.takeWhile (!isSlash ·) with _ | ⟨f, name⟩
      · rw [hname] at h
        obtain rfl : e = c := by simpa using h
        exact hserver'.2
      · rw [hname] at h
        have hmem : c ∈ rest.takeWhile (!isSlash ·) := by
          rw [hname]
          exact List.mem_of_getLast? (by simpa using h)
        simpa using List.mem_takeWhile_imp hmem
  · simp at h

/-- An absolute path that ends in a separator has a root directory. -/
theorem hasRootDirectory_of_isAbsolute {path : WString} (h : isAbsolute path)
    {c : WChar} (hlast : path.getLast? = some c) (hc : isSlash c) : hasRootDirectory path := by
  -- the root name is not all of the path
  have hrest : afterRootName path ≠ [] := by
    intro hnil
    have hroot : rootName path = path := by
      rw [← List.append_nil (rootName path), ← hnil, rootName_append_afterRootName]
    have hnot : isSlash c = false := getLast?_rootName (by rw [hroot]; exact hlast)
    rw [hc] at hnot
    exact absurd hnot (by decide)
  rw [isAbsolute] at h
  rw [hasRootDirectory]
  rw [afterRootName] at hrest ⊢
  by_cases hdrive : hasDriveLetterPrefix path
  · rw [if_pos hdrive] at h
    rwa [rootNameLength_of_hasDriveLetterPrefix hdrive]
  rw [if_neg hdrive, decide_eq_true_eq] at h
  rw [rootNameLength, if_neg hdrive] at h hrest ⊢
  split_ifs at h hrest ⊢ with hdevice hserver
  · rcases path with _ | ⟨b, _ | ⟨d, _ | ⟨e, _ | ⟨f, rest⟩⟩⟩⟩
    · simp [isDevicePrefix] at hdevice
    · simp [isDevicePrefix] at hdevice
    · simp [isDevicePrefix] at hdevice
    · simp [isDevicePrefix] at hdevice
    · have hslash : isSlash f = true := by
        simp only [isDevicePrefix, Bool.and_eq_true] at hdevice
        exact hdevice.1.1.2
      simpa using hslash
  · -- the server ends at a separator
    have hdrop : (path.drop 3).drop ((path.drop 3).takeWhile (!isSlash ·)).length =
        (path.drop 3).dropWhile (!isSlash ·) :=
      calc (path.drop 3).drop ((path.drop 3).takeWhile (!isSlash ·)).length
          = ((path.drop 3).takeWhile (!isSlash ·) ++ (path.drop 3).dropWhile (!isSlash ·)).drop
              ((path.drop 3).takeWhile (!isSlash ·)).length := by
            rw [List.takeWhile_append_dropWhile]
        _ = (path.drop 3).dropWhile (!isSlash ·) := List.drop_left
    rw [← List.drop_drop, hdrop] at hrest ⊢
    have hhead := List.head?_dropWhile_not (!isSlash ·) (path.drop 3)
    rcases hname : (path.drop 3).dropWhile (!isSlash ·) with _ | ⟨f, rest⟩
    · exact absurd hname hrest
    · simpa [hname] using hhead
  · exact absurd rfl h

/-! ### Joining -/

/-- A path that ends in a separator gets no further one. -/
theorem joinSeparator_of_isSlash {path : WString} {c : WChar} (hlast : path.getLast? = some c)
    (hc : isSlash c) : joinSeparator path = [] := by
  have hlength : rootNameLength path ≠ path.length := by
    intro heq
    have hroot : rootName path = path := by rw [rootName, heq, List.take_length]
    have hnot : isSlash c = false := getLast?_rootName (by rw [hroot]; exact hlast)
    rw [hc] at hnot
    exact absurd hnot (by decide)
  rw [joinSeparator, if_neg hlength, hlast, Option.any_some, if_pos hc]

/-- A path without a root name gets one, unless it is empty or ends in one. -/
theorem joinSeparator_of_not_isSlash {path : WString} (hroot : rootNameLength path = 0)
    (hne : path ≠ []) (hlast : path.getLast?.any isSlash = false) :
    joinSeparator path = [backslash] := by
  have hlength : rootNameLength path ≠ path.length := by
    rw [hroot]
    exact fun h => hne (List.length_eq_zero_iff.mp h.symm)
  rw [joinSeparator, if_neg hlength, hlast, if_neg (by simp)]

/-- A relative path without a root name is put behind the path. -/
theorem joinPath_of_relative (path : WString) {other : WString} (hroot : rootNameLength other = 0)
    (hrelative : other.head?.any isSlash = false) :
    joinPath path other = path ++ joinSeparator path ++ other := by
  have hdirectory : hasRootDirectory other = false := by
    rw [hasRootDirectory_of_rootNameLength hroot, hrelative]
  rw [joinPath, isAbsolute_of_rootNameLength hroot, if_neg (by simp),
    if_neg fun h => h.1 (rootName_eq_nil_iff.mpr hroot), hdirectory, if_neg (by simp),
    afterRootName, hroot, List.drop_zero]

/-- A path with a root name or a root directory replaces a path without a root name. -/
theorem joinPath_of_rooted {path other : WString} (hpath : rootNameLength path = 0)
    (hrooted : rootName other ≠ [] ∨ hasRootDirectory other) : joinPath path other = other := by
  have hname : rootName path = [] := rootName_eq_nil_iff.mpr hpath
  rw [joinPath, hname]
  split_ifs with habsolute hother hdirectory
  · rfl
  · rfl
  · -- there is no root name, so all of it follows
    have hnil : rootName other = [] := by
      by_contra hne
      exact hother ⟨hne, Ne.symm hne⟩
    rw [← hnil, rootName_append_afterRootName]
  · have hne := hrooted.resolve_right hdirectory
    exact absurd ⟨hne, hne.symm⟩ hother

/-! ### Order -/

/-- The elements of a relative path, as characters to compare: separators count as one that is less
than any other. `afterSlash` tells that one has been read. -/
def pathSymbols : Bool → WString → List ℕ
  | _, [] => []
  | afterSlash, c :: path =>
      if isSlash c then
        if afterSlash then pathSymbols true path else 0 :: pathSymbols true path
      else (c.toNat + 1) :: pathSymbols false path

/-- What `path::compare` compares: the root names first, then whether there are root directories,
and last the elements of the relative paths. -/
def pathKey (path : WString) : List ℕ :=
  (rootName path).map (·.toNat + 1) ++ 0 :: (hasRootDirectory path).toNat ::
    pathSymbols false (relativePath path)

/-- The order of `std::filesystem::path`. -/
def pathLt (a b : WString) : Prop := pathKey a < pathKey b

instance : DecidableRel pathLt := fun a b => inferInstanceAs (Decidable (pathKey a < pathKey b))

instance : IsStrictOrder WString pathLt where
  irrefl a := lt_irrefl (pathKey a)
  trans _ _ _ := lt_trans

/-- `path::operator==`. -/
def PathEq (a b : WString) : Prop := pathKey a = pathKey b

instance : DecidableRel PathEq := fun a b => inferInstanceAs (Decidable (pathKey a = pathKey b))

/-- Paths are equal if neither is less than the other. -/
theorem pathEq_iff (a b : WString) : PathEq a b ↔ ¬pathLt a b ∧ ¬pathLt b a := by
  rw [PathEq, pathLt, pathLt, not_lt, not_lt, and_comm]
  exact le_antisymm_iff

/-- Paths are equal if the order makes them equivalent. -/
theorem equivalent_pathLt {a b : WString} : OrderedSet.Equivalent pathLt a b ↔ PathEq a b :=
  (pathEq_iff a b).symm

instance : IsStrictWeakOrder WString pathLt where
  incomp_trans _ _ _ hab hbc :=
    (pathEq_iff _ _).mp (((pathEq_iff _ _).mpr hab).trans ((pathEq_iff _ _).mpr hbc))

/-! ### What equal paths have in common -/

/-- Equal paths have the same root name, and both have a root directory or neither has. -/
theorem pathEq_iff_components {a b : WString} :
    PathEq a b ↔ rootName a = rootName b ∧ hasRootDirectory a = hasRootDirectory b ∧
      pathSymbols false (relativePath a) = pathSymbols false (relativePath b) := by
  constructor
  · intro h
    -- the root name ends at the first zero
    have htake : ∀ (path : WString) (rest : List ℕ),
        ((rootName path).map (fun c : WChar => c.toNat + 1) ++ 0 :: rest).takeWhile (· ≠ 0) =
          (rootName path).map (fun c : WChar => c.toNat + 1) := by
      intro path rest
      have hpos : ∀ n ∈ (rootName path).map (fun c : WChar => c.toNat + 1),
          decide (n ≠ 0) = true := by
        intro n hn
        obtain ⟨c, -, rfl⟩ := List.mem_map.mp hn
        simp
      rw [List.takeWhile_append_of_pos hpos, List.takeWhile_cons_of_neg (by simp), List.append_nil]
    have hinj : Function.Injective fun c : WChar => c.toNat + 1 := fun c d h =>
      UInt16.toNat_inj.mp (Nat.succ.inj h)
    have hkey : pathKey a = pathKey b := h
    have hname : rootName a = rootName b := by
      have hnames := congrArg (List.takeWhile (· ≠ 0)) hkey
      rw [pathKey, pathKey, htake, htake] at hnames
      exact hinj.list_map hnames
    rw [pathKey, pathKey, hname] at hkey
    obtain ⟨hflag, hsymbols⟩ := List.cons.inj (List.cons.inj (List.append_cancel_left hkey)).2
    refine ⟨hname, Bool.eq_iff_iff.mpr ?_, hsymbols⟩
    rw [← Bool.toNat_eq_one, ← Bool.toNat_eq_one, hflag]
  · rintro ⟨hname, hflag, hsymbols⟩
    rw [PathEq, pathKey, pathKey, hname, hflag, hsymbols]

/-- The terminator is a symbol of its own. -/
theorem one_mem_pathSymbols {afterSlash : Bool} {path : WString} :
    1 ∈ pathSymbols afterSlash path ↔ nul ∈ path := by
  induction path generalizing afterSlash with
  | nil => simp [pathSymbols]
  | cons c path ih =>
    have hnul : (c.toNat + 1 = 1) ↔ c = nul := by
      rw [Nat.add_eq_right, ← UInt16.toNat_inj]
      rfl
    rw [pathSymbols, List.mem_cons]
    split_ifs with hc hslash
    · rw [ih, or_iff_right]
      rintro rfl
      exact absurd hc (by decide)
    · rw [List.mem_cons, ih, or_iff_right (by decide), or_iff_right]
      rintro rfl
      exact absurd hc (by decide)
    · rw [List.mem_cons, ih, eq_comm, hnul, eq_comm]

theorem nul_mem_iff {path : WString} :
    nul ∈ path ↔ nul ∈ rootName path ∨ nul ∈ relativePath path := by
  have hslashes : nul ∉ (afterRootName path).takeWhile isSlash := fun h =>
    absurd (List.mem_takeWhile_imp h) (by decide)
  have hafter : nul ∈ afterRootName path ↔ nul ∈ relativePath path := by
    rw [relativePath]
    conv_lhs => rw [← List.takeWhile_append_dropWhile (p := isSlash) (l := afterRootName path)]
    rw [List.mem_append, or_iff_right hslashes]
  conv_lhs => rw [← rootName_append_afterRootName path]
  rw [List.mem_append, hafter]

/-- The empty path has no part. -/
theorem eq_nil_iff_components {path : WString} :
    path = [] ↔ rootName path = [] ∧ hasRootDirectory path = false ∧
      pathSymbols false (relativePath path) = [] := by
  constructor
  · rintro rfl
    exact ⟨rfl, rfl, rfl⟩
  · rintro ⟨hroot, hdirectory, hsymbols⟩
    rw [← rootName_append_afterRootName path, hroot, List.nil_append]
    rcases hafter : afterRootName path with _ | ⟨c, rest⟩
    · rfl
    · -- the first character is not a separator, so it has a symbol
      rw [hasRootDirectory, hafter] at hdirectory
      have hc : isSlash c = false := by simpa using hdirectory
      rw [relativePath, hafter, List.dropWhile_cons_of_neg (by simp [hc]), pathSymbols,
        if_neg (by simp [hc])] at hsymbols
      exact absurd hsymbols (List.cons_ne_nil _ _)

/-- A path equal to a plain one is plain. -/
theorem plain_iff_of_pathEq {a b : WString} (h : PathEq a b) : Plain a ↔ Plain b := by
  obtain ⟨hname, hflag, hsymbols⟩ := pathEq_iff_components.mp h
  have hnil : a = [] ↔ b = [] := by
    rw [@eq_nil_iff_components a, @eq_nil_iff_components b, hname, hflag, hsymbols]
  have hnul : nul ∈ a ↔ nul ∈ b := by
    rw [@nul_mem_iff a, @nul_mem_iff b, hname, ← @one_mem_pathSymbols false (relativePath a),
      ← @one_mem_pathSymbols false (relativePath b), hsymbols]
  rw [Plain, Plain, ne_eq, ne_eq, hnil, hnul]

/-! ### Paths with a terminator -/

section Terminator

variable (path rest : WString)

theorem hasDriveLetterPrefix_append_nul :
    hasDriveLetterPrefix (path ++ nul :: rest) = hasDriveLetterPrefix path := by
  rcases path with _ | ⟨b, _ | ⟨c, path⟩⟩
  · cases rest with
    | nil => rfl
    | cons => simp [hasDriveLetterPrefix, isDriveLetter, nul]
  · simp [hasDriveLetterPrefix, nul, colon]
  · rfl

theorem isDevicePrefix_append_nul :
    isDevicePrefix (path ++ nul :: rest) = isDevicePrefix path := by
  have hnul : isSlash nul = false := rfl
  rcases path with _ | ⟨b, _ | ⟨c, _ | ⟨d, _ | ⟨e, path⟩⟩⟩⟩
  · rcases rest with _ | ⟨c, _ | ⟨d, _ | ⟨e, rest⟩⟩⟩ <;> simp [isDevicePrefix, hnul]
  · rcases rest with _ | ⟨d, _ | ⟨e, rest⟩⟩ <;>
      simp [isDevicePrefix, hnul, show nul ≠ questionMark by decide]
  · rcases rest with _ | ⟨e, rest⟩ <;>
      simp [isDevicePrefix, show nul ≠ questionMark by decide, show nul ≠ dot by decide]
  · simp [isDevicePrefix, hnul]
  · have hhead : (path ++ nul :: rest).head?.any isSlash = path.head?.any isSlash := by
      cases path <;> rfl
    simp only [isDevicePrefix, List.cons_append, hhead]

/-- A terminator may make a server of two separators, or a longer one. -/
theorem rootNameLength_le_append_nul :
    rootNameLength path ≤ rootNameLength (path ++ nul :: rest) := by
  rw [rootNameLength, rootNameLength, hasDriveLetterPrefix_append_nul, isDevicePrefix_append_nul]
  split_ifs with hdrive hdevice hserver hserver' hserver'
  · exact le_rfl
  · exact le_rfl
  · rcases path with _ | ⟨b, _ | ⟨c, _ | ⟨d, path⟩⟩⟩
    · simp [isServerPrefix] at hserver
    · simp [isServerPrefix] at hserver
    · simp [isServerPrefix] at hserver
    · refine Nat.add_le_add_left ?_ 3
      simp only [List.cons_append, List.drop_succ_cons, List.drop_zero, List.takeWhile_append]
      split_ifs with hall
      · rw [List.length_append]
        omega
      · exact le_rfl
  · rcases path with _ | ⟨b, _ | ⟨c, _ | ⟨d, path⟩⟩⟩
    · simp [isServerPrefix] at hserver
    · simp [isServerPrefix] at hserver
    · simp [isServerPrefix] at hserver
    · exact absurd hserver hserver'
  · exact Nat.zero_le _
  · exact le_rfl

theorem rootName_prefix_append_nul : rootName path <+: rootName (path ++ nul :: rest) := by
  have hpath : rootName path <+: path ++ nul :: rest :=
    (List.take_prefix _ path).trans (List.prefix_append path _)
  refine List.prefix_of_prefix_length_le hpath (List.take_prefix _ _) ?_
  have hle := rootNameLength_le_append_nul path rest
  rw [rootName, rootName, List.length_take, List.length_take, List.length_append]
  omega

/-- A terminator goes into the last symbol of its own. -/
theorem pathSymbols_append_nul (afterSlash : Bool) :
    pathSymbols afterSlash (path ++ nul :: rest) =
      pathSymbols afterSlash path ++ 1 :: pathSymbols false rest := by
  have hnul : isSlash nul = false := rfl
  induction path generalizing afterSlash with
  | nil =>
    rw [List.nil_append, pathSymbols.eq_2, hnul]
    rfl
  | cons c path ih =>
    rw [List.cons_append, pathSymbols, pathSymbols]
    split_ifs
    · exact ih true
    · rw [ih, List.cons_append]
    · rw [ih, List.cons_append]

theorem pathKey_le_append_nul : pathKey path ≤ pathKey (path ++ nul :: rest) := by
  obtain ⟨more, hmore⟩ := rootName_prefix_append_nul path rest
  rcases more with _ | ⟨c, more⟩
  · -- the same root name, so the rest is what is longer
    have hafter : afterRootName (path ++ nul :: rest) = afterRootName path ++ nul :: rest := by
      have hsplit := rootName_append_afterRootName (path ++ nul :: rest)
      rw [← hmore, List.append_nil] at hsplit
      refine @List.append_cancel_left _ (rootName path) _ _ ?_
      rw [hsplit, ← List.append_assoc, rootName_append_afterRootName]
    have hdirectory : hasRootDirectory (path ++ nul :: rest) = hasRootDirectory path := by
      rw [hasRootDirectory, hasRootDirectory, hafter]
      cases afterRootName path <;> rfl
    have hrelative : relativePath (path ++ nul :: rest) = relativePath path ++ nul :: rest := by
      rw [relativePath, relativePath, hafter, List.dropWhile_append]
      split_ifs with hnil
      · rw [List.isEmpty_iff.mp hnil, List.dropWhile_cons_of_neg (by decide), List.nil_append]
      · rfl
    rw [pathKey, pathKey, ← hmore, List.append_nil, hdirectory, hrelative, pathSymbols_append_nul]
    have hprefix : ∀ l l' : List ℕ, l ≤ l ++ l' := fun l l' => not_lt.mp List.le_append_left
    rw [← List.cons_append, ← List.cons_append, ← List.append_assoc]
    exact hprefix _ _
  · rw [pathKey, pathKey, ← hmore, List.map_append, List.append_assoc]
    refine le_of_lt (List.append_left_lt ?_)
    rw [List.map_cons, List.cons_append]
    exact List.Lex.rel (Nat.succ_pos _)

end Terminator

/-- What precedes the terminator of a path does not come after it. -/
theorem not_pathLt_cString (path : WString) : ¬pathLt path (cString path) := by
  rw [pathLt, not_lt]
  rcases hrest : path.dropWhile (· ≠ nul) with _ | ⟨c, rest⟩
  · have hself : cString path = path := by
      conv_rhs => rw [← List.takeWhile_append_dropWhile (p := (· ≠ nul)) (l := path), hrest]
      rw [List.append_nil, cString]
    rw [hself]
  · have hc : c = nul := by
      have hhead := List.head?_dropWhile_not (· ≠ nul) path
      rw [hrest] at hhead
      simpa using hhead
    have hpath : cString path ++ nul :: rest = path := by
      rw [← hc, ← hrest, cString, List.takeWhile_append_dropWhile]
    conv_rhs => rw [← hpath]
    exact pathKey_le_append_nul _ rest

end HidHide
