import HidHide.Client.ImageNames
import HidHide.Client.Scripts

/-!
# Nested volumes

Where the file of a file name is, if mount points may be folders of other volumes: on the volume of
the longest mount point that the name starts with, whatever the order of the volumes. The rest of
the name is then joined with the device name of the volume, and a rest with a root name or a root
directory, as in `C:\\x.exe`, replaces that name (`resolvesOnVolume_iff`).
-/

namespace HidHide

/-- A name of a device: a path with a root directory and without a root name, not ending in a
separator. -/
structure IsDeviceName (text : WString) : Prop where
  rooted : text.head?.any isSlash
  noRootName : rootNameLength text = 0
  unclosed : text.getLast?.any isSlash = false

/-- A mount table: volumes with their device names, each mount point being that of one volume and
ending in a backslash. -/
structure VolumeTable where
  volumes : List Volume
  isDeviceName : ∀ v ∈ volumes, IsDeviceName v.dosDeviceName
  closed : ∀ v ∈ volumes, ∀ p ∈ v.mountPoints, p.getLast? = some backslash
  unique : ∀ u ∈ volumes, ∀ v ∈ volumes, ∀ p ∈ u.mountPoints, p ∈ v.mountPoints → u = v

/-- The longest mount point that the file name starts with, with its volume. -/
structure IsLongestMountPoint (volumes : List Volume) (fileName : WString) (v : Volume)
    (mountPoint : WString) : Prop where
  mem : v ∈ volumes
  mountPoint_mem : mountPoint ∈ v.mountPoints
  starts : mountPoint <+: fileName
  longest : ∀ u ∈ volumes, ∀ p ∈ u.mountPoints, p <+: fileName → p.length ≤ mountPoint.length

/-- The file name is resolved on the volume of its longest mount point, below its device name; and
to nothing if there is no mount point. -/
structure ResolvesOnVolume (volumes : List Volume) (fileName : WString) : Prop where
  empty : (∀ v ∈ volumes, ∀ p ∈ v.mountPoints, ¬p <+: fileName) →
    fileNameToFullImageName volumes fileName = some []
  below : ∀ v mountPoint, IsLongestMountPoint volumes fileName v mountPoint →
    fileNameToFullImageName volumes fileName = some (v.dosDeviceName ++
      backslash :: (fileName.drop mountPoint.length).dropWhile isSlash)

/-! ### Joining -/

namespace IsDeviceName

variable {name : WString} (hname : IsDeviceName name)
include hname

theorem ne_nil : name ≠ [] := by
  rintro rfl
  exact absurd hname.rooted (by simp)

/-- A rest that replaces the device name is not below it: it would have the name, that does not end
in a separator, among its leading separators. -/
theorem ne_below (rest : WString) : rest ≠ name ++ backslash :: rest.dropWhile isSlash := by
  intro h
  have hsplit : rest.takeWhile isSlash ++ rest.dropWhile isSlash =
      (name ++ [backslash]) ++ rest.dropWhile isSlash := by
    rw [List.takeWhile_append_dropWhile, List.append_assoc]
    exact h
  have hslashes := List.append_cancel_right hsplit
  have hlast : name.getLast hname.ne_nil ∈ rest.takeWhile isSlash := by
    rw [hslashes]
    exact List.mem_append_left _ (List.getLast_mem hname.ne_nil)
  have hunclosed := hname.unclosed
  rw [List.getLast?_eq_some_getLast hname.ne_nil, Option.any_some,
    List.mem_takeWhile_imp hlast] at hunclosed
  cases hunclosed

/-- The rest of a file name is put below the device name unless it is rooted itself. -/
theorem joinPath_eq_iff (rest : WString) :
    joinPath name rest = name ++ backslash :: rest.dropWhile isSlash ↔
      rootName rest = [] ∧ hasRootDirectory rest = false := by
  constructor
  · intro h
    by_contra hrooted
    rw [joinPath_of_rooted hname.noRootName] at h
    · exact hname.ne_below rest h
    · rw [not_and_or, Bool.not_eq_false] at hrooted
      exact hrooted
  · rintro ⟨hroot, hdirectory⟩
    have hlength := rootName_eq_nil_iff.mp hroot
    rw [hasRootDirectory_of_rootNameLength hlength] at hdirectory
    rw [joinPath_of_relative name hlength hdirectory,
      joinSeparator_of_not_isSlash hname.noRootName hname.ne_nil hname.unclosed]
    rcases rest with _ | ⟨c, rest⟩
    · simp
    · have hc : isSlash c = false := by simpa using hdirectory
      rw [List.dropWhile_cons_of_neg (by simp [hc]), List.append_assoc]
      rfl

end IsDeviceName

/-! ### Resolution -/

namespace VolumeTable

variable (table : VolumeTable) {fileName : WString}

theorem mountPoint_ne_nil {v : Volume} (hv : v ∈ table.volumes) {p : WString}
    (hp : p ∈ v.mountPoints) : p ≠ [] := by
  rintro rfl
  exact absurd (table.closed v hv [] hp) (by simp)

/-- The volume is found by its mount point. -/
theorem volumeNameForVolumeMountPoint_eq {v : Volume} (hv : v ∈ table.volumes) {p : WString}
    (hp : p ∈ v.mountPoints) : volumeNameForVolumeMountPoint table.volumes p = some v := by
  rcases hfound : volumeNameForVolumeMountPoint table.volumes p with _ | u
  · have hnone := List.find?_eq_none.mp hfound v hv
    exact absurd hp (by simpa using hnone)
  · have hu : p ∈ u.mountPoints := by simpa using List.find?_some hfound
    rw [table.unique u (List.mem_of_find?_eq_some hfound) v hv p hu hp]

/-- Resolution finds the longest mount point, and joins. -/
theorem fileNameToFullImageName_eq_joinPath {v : Volume} {mountPoint : WString}
    (h : IsLongestMountPoint table.volumes fileName v mountPoint) :
    fileNameToFullImageName table.volumes fileName =
      some (joinPath v.dosDeviceName (fileName.drop mountPoint.length)) := by
  have hne := table.mountPoint_ne_nil h.mem h.mountPoint_mem
  have hfind := findVolumeMountPoint_eq h.mem h.mountPoint_mem hne h.starts h.longest
  have hvolume := table.volumeNameForVolumeMountPoint_eq h.mem h.mountPoint_mem
  rw [fileNameToFullImageName, hfind, if_neg hne, hvolume]

end VolumeTable

/-- **A file name is resolved on the right volume** exactly when what follows the longest mount
point has neither a root name nor a root directory. -/
theorem resolvesOnVolume_iff (table : VolumeTable) (fileName : WString) :
    ResolvesOnVolume table.volumes fileName ↔
      ∀ v mountPoint, IsLongestMountPoint table.volumes fileName v mountPoint →
        rootName (fileName.drop mountPoint.length) = [] ∧
          hasRootDirectory (fileName.drop mountPoint.length) = false := by
  have hjoin : ∀ v mountPoint, IsLongestMountPoint table.volumes fileName v mountPoint →
      (fileNameToFullImageName table.volumes fileName = some (v.dosDeviceName ++
        backslash :: (fileName.drop mountPoint.length).dropWhile isSlash) ↔
        rootName (fileName.drop mountPoint.length) = [] ∧
          hasRootDirectory (fileName.drop mountPoint.length) = false) := by
    intro v mountPoint h
    rw [table.fileNameToFullImageName_eq_joinPath h, Option.some_inj]
    exact (table.isDeviceName v h.mem).joinPath_eq_iff _
  constructor
  · intro h v mountPoint hlongest
    exact (hjoin v mountPoint hlongest).mp (h.below v mountPoint hlongest)
  · intro h
    refine ⟨fun hnone => ?_, fun v mountPoint hlongest => ?_⟩
    · rw [fileNameToFullImageName, findVolumeMountPoint_eq_nil hnone]
      rfl
    · exact (hjoin v mountPoint hlongest).mpr (h v mountPoint hlongest)

/-! ### A folder of another volume -/

/-- `\Device\HarddiskVolume1` at `C:\D\`. -/
def folderVolume : Volume where
  dosDeviceName := harddiskVolume1.dosDeviceName
  mountPoints := ⟨[[0x43, 0x3A, 0x5C, 0x44, 0x5C]], List.pairwise_singleton _ _⟩

/-- The volume that the folder belongs to is enumerated first. -/
def nestedVolumes : VolumeTable where
  volumes := [harddiskVolume10, folderVolume]
  isDeviceName v hv := by
    rcases List.mem_cons.mp hv with rfl | hv
    · exact ⟨by decide, by decide, by decide⟩
    · obtain rfl := List.mem_singleton.mp hv
      exact ⟨by decide, by decide, by decide⟩
  closed := by decide
  unique := by decide

/-- The file `C:\D\x` is on the volume of the folder. -/
example : fileNameToFullImageName nestedVolumes.volumes [0x43, 0x3A, 0x5C, 0x44, 0x5C, 0x78] =
    some (harddiskVolume1.dosDeviceName ++ [0x5C, 0x78]) := by decide

/-- The file `C:\\x.exe` is accepted, but it is resolved to `\x.exe`. -/
theorem doubleSeparator_not_resolvesOnVolume :
    CommandInterpreter.valOneFullyQualifiedExecutablePath
        { bareEnvironment with volumes := nestedVolumes.volumes }
        [[], [0x43, 0x3A, 0x5C, 0x5C, 0x78, 0x2E, 0x65, 0x78, 0x65]] = some none ∧
      fileNameToFullImageName nestedVolumes.volumes
          [0x43, 0x3A, 0x5C, 0x5C, 0x78, 0x2E, 0x65, 0x78, 0x65] =
        some [0x5C, 0x78, 0x2E, 0x65, 0x78, 0x65] ∧
      ¬ResolvesOnVolume nestedVolumes.volumes
        [0x43, 0x3A, 0x5C, 0x5C, 0x78, 0x2E, 0x65, 0x78, 0x65] := by
  refine ⟨by decide, by decide, fun h => ?_⟩
  have hbelow := h.below harddiskVolume10 [0x43, 0x3A, 0x5C]
    ⟨by decide, by decide, by decide, by decide⟩
  exact absurd hbelow (by decide)

end HidHide
