import Mathlib.Data.List.Find
import HidHide.Client.Volume

/-!
# Image names and back

Which files are found again by their full image names. The device name of one volume can be the
start of the device name of another, as `\Device\HarddiskVolume1` of `\Device\HarddiskVolume10`.
A full image name on the latter is taken for one on the former if that is enumerated first, as the
search does not ask for a separator after the device name (`imageName_roundTrip_iff`).
-/

namespace HidHide

/-- `\Device\`. -/
def devicePrefix : WString := [0x5C, 0x44, 0x65, 0x76, 0x69, 0x63, 0x65, 0x5C]

/-- A DOS device name `\Device\name`, the name without separators. -/
def IsDosDeviceName (text : WString) : Prop :=
  ∃ name : WString, name ≠ [] ∧ (∀ c ∈ name, isSlash c = false) ∧ text = devicePrefix ++ name

/-- A mount point: an absolute path that ends in a backslash, written with backslashes. -/
structure IsMountPoint (text : WString) : Prop where
  absolute : isAbsolute text
  closed : text.getLast? = some backslash
  native : slash ∉ text

/-- A mount table: volumes with different device names, each with mount points of which none is the
start of another one. -/
structure MountTable where
  volumes : List Volume
  isDosDeviceName : ∀ v ∈ volumes, IsDosDeviceName v.dosDeviceName
  nodup : (volumes.map (·.dosDeviceName)).Nodup
  isMountPoint : ∀ v ∈ volumes, ∀ p ∈ v.mountPoints, IsMountPoint p
  nonempty : ∀ v ∈ volumes, v.mountPoints.toList ≠ []
  disjoint : ∀ u ∈ volumes, ∀ v ∈ volumes, ∀ p ∈ u.mountPoints, ∀ q ∈ v.mountPoints,
    p <+: q → u = v ∧ p = q

/-- The volume is taken for the one that the full image names of its files are on: it is the first
in the table whose device name is the start of its own, or what is left of its own after that of
the first and a further character is, with a backslash, a mount point of it by accident. -/
def MountTable.FindsVolume (table : MountTable) (v : Volume) : Prop :=
  ∀ u, table.volumes.find? (fun u => u.dosDeviceName <+: v.dosDeviceName) = some u →
    u = v ∨ ∃ c drive, v.dosDeviceName = u.dosDeviceName ++ c :: drive ∧
      drive ++ [backslash] ∈ v.mountPoints

/-! ### Joining -/

theorem joinPath_device {text r : WString} (htext : IsDosDeviceName text)
    (hroot : rootNameLength r = 0) (hr : r.head?.any isSlash = false) :
    joinPath text r = text ++ backslash :: r := by
  obtain ⟨name, hne, hname, rfl⟩ := htext
  have hlast : (devicePrefix ++ name).getLast?.any isSlash = false := by
    rw [List.getLast?_append_of_ne_nil _ hne, List.getLast?_eq_some_getLast hne, Option.any_some]
    exact hname _ (List.getLast_mem hne)
  have hsep := @joinSeparator_of_not_isSlash (devicePrefix ++ name) rfl
    (List.append_ne_nil_of_right_ne_nil _ hne) hlast
  rw [joinPath_of_relative _ hroot hr, hsep, List.append_assoc]
  rfl

/-- A drive replaces the device name. -/
theorem joinPath_device_drive {text r : WString} (htext : IsDosDeviceName text)
    (hroot : rootNameLength r ≠ 0) : joinPath text r = r := by
  obtain ⟨name, -, -, rfl⟩ := htext
  exact joinPath_of_rooted rfl (.inl fun h => hroot (rootName_eq_nil_iff.mp h))

theorem joinPath_mountPoint {p r : WString} (hp : IsMountPoint p) (hroot : rootNameLength r = 0)
    (hr : r.head?.any isSlash = false) : joinPath p r = p ++ r := by
  rw [joinPath_of_relative _ hroot hr, joinSeparator_of_isSlash hp.closed rfl, List.append_nil]

theorem IsMountPoint.ne_nil {p : WString} (hp : IsMountPoint p) : p ≠ [] := by
  rintro rfl
  exact absurd hp.closed (by simp)

/-- The root of a mount point, with its separator, is the start of it. -/
theorem IsMountPoint.rootName_prefix {p : WString} (hp : IsMountPoint p) :
    rootName p ++ [backslash] <+: p := by
  have hdirectory := hasRootDirectory_of_isAbsolute hp.absolute hp.closed rfl
  rw [hasRootDirectory] at hdirectory
  rcases hafter : afterRootName p with _ | ⟨c, rest⟩
  · simp [hafter] at hdirectory
  · have hc : isSlash c = true := by simpa [hafter] using hdirectory
    have hp' : rootName p ++ c :: rest = p := by rw [← hafter, rootName_append_afterRootName]
    have hne : c ≠ slash := fun h => hp.native (by rw [← hp', h]; simp)
    obtain rfl : c = backslash := by simpa [isSlash, hne] using hc
    exact ⟨rest, by rw [List.append_assoc]; exact hp'⟩

/-- What a mount point of another volume is joined with: if the result is on a mount point, then
that is the start of the other one or continues it, or it is a drive by accident. -/
theorem eq_of_joinPath_eq {p q t r : WString} (hp : IsMountPoint p)
    (ht : ∀ c ∈ t, isSlash c = false) (hjoin : joinPath p (t ++ backslash :: r) = q ++ r) :
    q = t ++ [backslash] ∨ p <+: q ∨ q <+: p := by
  have hsplit : t ++ backslash :: r = (t ++ [backslash]) ++ r := by simp
  rcases t with _ | ⟨x, t⟩
  · rw [List.nil_append] at hjoin
    by_cases habsolute : isAbsolute (backslash :: r)
    · left
      rw [joinPath, if_pos habsolute] at hjoin
      exact List.append_cancel_right (hjoin.symm.trans hsplit)
    · -- the root directory replaces that of the mount point
      right; right
      have hroot : rootNameLength (backslash :: r) = 0 := by
        have hdrive : hasDriveLetterPrefix (backslash :: r) = false := by
          rcases r with _ | ⟨c, r⟩ <;> rfl
        simpa [isAbsolute, hdrive] using habsolute
      have hdirectory : hasRootDirectory (backslash :: r) = true := by
        rw [hasRootDirectory_of_rootNameLength hroot]
        rfl
      rw [joinPath, if_neg habsolute, if_neg fun h => h.1 (rootName_eq_nil_iff.mpr hroot),
        if_pos hdirectory, afterRootName, hroot, List.drop_zero] at hjoin
      have hq' : q = rootName p ++ [backslash] := by
        refine List.append_cancel_right (hjoin.symm.trans ?_)
        simp
      rw [hq']
      exact hp.rootName_prefix
  have hx : isSlash x = false := ht x List.mem_cons_self
  have hsep : joinSeparator p = [] := joinSeparator_of_isSlash hp.closed rfl
  have hlength : rootNameLength (x :: t ++ backslash :: r) =
      if hasDriveLetterPrefix (x :: t ++ backslash :: r) then 2 else 0 :=
    rootNameLength_of_not_isSlash (by simpa using hx)
  by_cases hdrive : hasDriveLetterPrefix (x :: t ++ backslash :: r)
  · -- a drive: it replaces the mount point unless that is on the same drive
    rw [if_pos hdrive] at hlength
    rcases t with _ | ⟨y, _ | ⟨z, t⟩⟩
    · have hcolon : isDriveLetter x = true ∧ backslash = colon := by
        simpa [hasDriveLetterPrefix] using hdrive
      exact absurd hcolon.2 (by decide)
    · left
      have habsolute : isAbsolute (x :: [y] ++ backslash :: r) = true := by
        rw [isAbsolute, if_pos hdrive]
        rfl
      rw [joinPath, if_pos habsolute] at hjoin
      exact List.append_cancel_right (hjoin.symm.trans hsplit)
    · have hz : isSlash z = false := ht z (by simp)
      have habsolute : isAbsolute (x :: y :: z :: t ++ backslash :: r) = false := by
        rw [isAbsolute, if_pos hdrive]
        simpa using hz
      have hdirectory : hasRootDirectory (x :: y :: z :: t ++ backslash :: r) = false := by
        rw [hasRootDirectory, afterRootName, hlength]
        simpa using hz
      rw [joinPath, habsolute, if_neg (by simp)] at hjoin
      split_ifs at hjoin with hother hroot
      · left
        exact List.append_cancel_right (hjoin.symm.trans hsplit)
      · rw [hdirectory] at hroot
        exact absurd hroot (by simp)
      · right; left
        have hafter : afterRootName (x :: y :: z :: t ++ backslash :: r) =
            (z :: t ++ [backslash]) ++ r := by
          rw [afterRootName, hlength]
          simp
        rw [hsep, List.append_nil, hafter, ← List.append_assoc] at hjoin
        rw [← List.append_cancel_right hjoin]
        exact List.prefix_append p _
  · right; left
    rw [if_neg hdrive] at hlength
    rw [joinPath_of_relative p hlength (by simpa using hx), hsep, List.append_nil, hsplit,
      ← List.append_assoc] at hjoin
    rw [← List.append_cancel_right hjoin]
    exact List.prefix_append p _

/-- A mount point that is a drive replaces the one that it is joined with. -/
theorem joinPath_of_isMountPoint {t : WString} (p r : WString) (ht : ∀ c ∈ t, isSlash c = false)
    (hmount : IsMountPoint (t ++ [backslash])) :
    joinPath p (t ++ backslash :: r) = (t ++ [backslash]) ++ r := by
  have habsolute : isAbsolute (t ++ backslash :: r) = true := by
    have h := hmount.absolute
    rcases t with _ | ⟨x, t⟩
    · exact absurd h (by decide)
    have hx : isSlash x = false := ht x List.mem_cons_self
    have hlength : rootNameLength (x :: t ++ [backslash]) =
        if hasDriveLetterPrefix (x :: t ++ [backslash]) then 2 else 0 :=
      rootNameLength_of_not_isSlash (by simpa using hx)
    by_cases hdrive : hasDriveLetterPrefix (x :: t ++ [backslash])
    · -- the separator follows the colon
      rw [isAbsolute, if_pos hdrive] at h
      rcases t with _ | ⟨y, _ | ⟨z, t⟩⟩
      · simp at h
      · have hdrive' : hasDriveLetterPrefix (x :: [y] ++ backslash :: r) = true := hdrive
        rw [isAbsolute, if_pos hdrive']
        rfl
      · have hz : isSlash z = false := ht z (by simp)
        simp [hz] at h
    · rw [if_neg hdrive] at hlength
      rw [isAbsolute_of_rootNameLength hlength] at h
      exact absurd h (by simp)
  rw [joinPath, if_pos habsolute]
  simp

/-! ### The two directions -/

namespace MountTable

variable (table : MountTable)

/-- The full image name of a file on a mount point. -/
theorem fileNameToFullImageName_eq {v : Volume} (hv : v ∈ table.volumes) {m : WString}
    (hm : m ∈ v.mountPoints) (r : WString) :
    fileNameToFullImageName table.volumes (m ++ r) = some (joinPath v.dosDeviceName r) := by
  have hne : m ≠ [] := (table.isMountPoint v hv m hm).ne_nil
  have hfind : findVolumeMountPointForFullyQualifiedFileName table.volumes (m ++ r) = m := by
    refine findVolumeMountPoint_eq hv hm hne (List.prefix_append m r) fun u hu p hp hstarts => ?_
    rcases List.prefix_or_prefix_of_prefix hstarts (List.prefix_append m r) with hpm | hmp
    · exact hpm.length_le
    · rw [(table.disjoint v hv u hu m hm p hp hmp).2]
  have hname : volumeNameForVolumeMountPoint table.volumes m = some v := by
    rcases hfound : volumeNameForVolumeMountPoint table.volumes m with _ | u
    · have hnone := List.find?_eq_none.mp hfound v hv
      exact absurd hm (by simpa using hnone)
    · have hu : m ∈ u.mountPoints := by simpa using List.find?_some hfound
      rw [(table.disjoint u (List.mem_of_find?_eq_some hfound) v hv m hu m hm
        (List.prefix_refl m)).1]
  rw [fileNameToFullImageName, hfind, if_neg hne, hname, List.drop_left]

/-- What a device name has after another one is a part of a name. -/
theorem not_isSlash_of_append {u v : WString} (hu : IsDosDeviceName u) (hv : IsDosDeviceName v)
    {rest : WString} (h : v = u ++ rest) : ∀ c ∈ rest, isSlash c = false := by
  obtain ⟨name, -, -, rfl⟩ := hu
  obtain ⟨name', -, hname', rfl⟩ := hv
  rw [List.append_assoc] at h
  intro c hc
  exact hname' c (by rw [List.append_cancel_left h]; exact List.mem_append_right name hc)

/-- A full image name on a volume starts with the device names that the one of the volume starts
with. -/
theorem prefix_append_iff {u v : WString} (hu : IsDosDeviceName u) (hv : IsDosDeviceName v)
    (r : WString) : u <+: v ++ backslash :: r ↔ u <+: v := by
  refine ⟨fun h => ?_, fun h => h.trans (List.prefix_append _ _)⟩
  rcases List.prefix_or_prefix_of_prefix h (List.prefix_append v (backslash :: r)) with
    huv | ⟨rest, rfl⟩
  · exact huv
  · -- longer than the name of the volume, it would have the separator in its name
    rcases rest with _ | ⟨c, rest⟩
    · rw [List.append_nil]
    · have hc : c = backslash := by
        have h' := (List.prefix_append_right_inj v).mp h
        exact (List.cons_prefix_cons.mp h').1
      have hslash := not_isSlash_of_append hv hu rfl c List.mem_cons_self
      rw [hc] at hslash
      exact absurd hslash (by decide)

/-- The volume that a full image name is taken to be on. -/
theorem fullImageNameToFileName_eq {u v : Volume} (hv : v ∈ table.volumes)
    (hu : table.volumes.find? (fun u => u.dosDeviceName <+: v.dosDeviceName) = some u)
    (r : WString) :
    ∃ p ∈ u.mountPoints,
      fullImageNameToFileName table.volumes (v.dosDeviceName ++ backslash :: r) = some (joinPath p
        ((v.dosDeviceName ++ backslash :: r).drop (u.dosDeviceName.length + 1))) := by
  have hmem : u ∈ table.volumes := List.mem_of_find?_eq_some hu
  have hstarts : u.dosDeviceName <+: v.dosDeviceName := by simpa using List.find?_some hu
  have htest : table.volumes.find? (fun w => w.dosDeviceName =
      (v.dosDeviceName ++ backslash :: r).take w.dosDeviceName.length) = some u := by
    rw [← hu]
    refine List.find?_congr fun w hw => decide_eq_decide.mpr ?_
    rw [← List.prefix_iff_eq_take]
    exact prefix_append_iff (table.isDosDeviceName w hw) (table.isDosDeviceName v hv) r
  obtain ⟨p, hp, hfind⟩ := find?_iterate table.nonempty _ htest
  refine ⟨p, hp, ?_⟩
  have hlength : u.dosDeviceName.length ≤ v.dosDeviceName.length := hstarts.length_le
  rw [fullImageNameToFileName, findVolumeMountPointAndDosDeviceNameForFullImageName, hfind]
  dsimp only
  rw [if_neg (table.isMountPoint u hmem p hp).ne_nil, if_neg]
  rw [List.length_append, List.length_cons]
  omega

/-- A name that does not start with a separator is on no volume. -/
theorem fullImageNameToFileName_of_relative {r : WString} (hr : r.head?.any isSlash = false) :
    fullImageNameToFileName table.volumes r = some [] := by
  have hnone : (iterateAllVolumeMountPointsForFileStorage table.volumes).find?
      (fun x => x.1.dosDeviceName = r.take x.1.dosDeviceName.length) = none := by
    refine List.find?_eq_none.mpr fun x hx => ?_
    obtain ⟨name, -, -, htext⟩ := table.isDosDeviceName x.1 (mem_iterate.mp hx).1
    intro h
    obtain ⟨rest, hrest⟩ := List.prefix_iff_eq_take.mpr (of_decide_eq_true h)
    have hslash : (devicePrefix ++ name ++ rest).head?.any isSlash = true := rfl
    rw [← htext, hrest, hr] at hslash
    exact absurd hslash (by decide)
  rw [fullImageNameToFileName, findVolumeMountPointAndDosDeviceNameForFullImageName, hnone]
  rfl

end MountTable

/-- **Image names map back**: a file on a mount point of a volume is found again, on a mount point
of the same volume, exactly when its relative name has no drive and the volume is taken for the one
that the name is on. -/
theorem imageName_roundTrip_iff (table : MountTable) {v : Volume} (hv : v ∈ table.volumes)
    {m : WString} (hm : m ∈ v.mountPoints) {r : WString} (hr : r ≠ [])
    (hrelative : r.head?.any isSlash = false) :
    (∃ m' ∈ v.mountPoints, (fileNameToFullImageName table.volumes (m ++ r)).bind
        (fullImageNameToFileName table.volumes) = some (m' ++ r)) ↔
      rootName r = [] ∧ table.FindsVolume v := by
  rw [table.fileNameToFullImageName_eq hv hm, Option.bind_some]
  have hdevice := table.isDosDeviceName v hv
  by_cases hroot : rootNameLength r = 0
  · rw [rootName_eq_nil_iff, and_iff_right hroot, joinPath_device hdevice hroot hrelative]
    -- some volume is found, at the latest this one
    obtain ⟨u, hu⟩ : ∃ u, table.volumes.find? (fun u => u.dosDeviceName <+: v.dosDeviceName) =
        some u := by
      rw [← Option.isSome_iff_exists, List.find?_isSome]
      exact ⟨v, hv, by simp⟩
    obtain ⟨p, hp, heq⟩ := table.fullImageNameToFileName_eq hv hu r
    have hmem : u ∈ table.volumes := List.mem_of_find?_eq_some hu
    have hmount := table.isMountPoint u hmem p hp
    rw [heq, MountTable.FindsVolume]
    by_cases huv : u = v
    · subst huv
      refine iff_of_true ⟨p, hp, ?_⟩ fun w hw => ?_
      · rw [← List.drop_drop, List.drop_left, List.drop_one, List.tail_cons,
          joinPath_mountPoint hmount hroot hrelative]
      · rw [hu] at hw
        exact .inl (Option.some.inj hw).symm
    · obtain ⟨rest, hrest⟩ : u.dosDeviceName <+: v.dosDeviceName := by
        simpa using List.find?_some hu
      rcases rest with _ | ⟨c, t⟩
      · have hsame : u.dosDeviceName = v.dosDeviceName := by rw [← hrest, List.append_nil]
        exact absurd (List.inj_on_of_nodup_map table.nodup hmem hv hsame) huv
      have ht : ∀ d ∈ t, isSlash d = false := fun d hd =>
        MountTable.not_isSlash_of_append (table.isDosDeviceName u hmem) hdevice hrest.symm d
          (List.mem_cons_of_mem c hd)
      have hdrop : (v.dosDeviceName ++ backslash :: r).drop (u.dosDeviceName.length + 1) =
          t ++ backslash :: r := by
        rw [← hrest, ← List.drop_drop, List.append_assoc, List.drop_left, List.drop_one,
          List.cons_append, List.tail_cons]
      rw [hdrop]
      constructor
      · rintro ⟨m', hm', hjoin⟩ w hw
        obtain rfl : u = w := Option.some.inj (hu.symm.trans hw)
        right
        rcases eq_of_joinPath_eq hmount ht (Option.some.inj hjoin) with hdrive | hpre | hpre
        · exact ⟨c, t, hrest.symm, hdrive ▸ hm'⟩
        · exact absurd (table.disjoint u hmem v hv p hp m' hm' hpre).1 huv
        · exact absurd (table.disjoint v hv u hmem m' hm' p hp hpre).1.symm huv
      · intro h
        rcases h u hu with heq' | ⟨c', drive, hdrive, hm'⟩
        · exact absurd heq' huv
        · obtain ⟨-, rfl⟩ : c = c' ∧ t = drive :=
            List.cons.inj (List.append_cancel_left (hrest.trans hdrive))
          refine ⟨t ++ [backslash], hm', congrArg some ?_⟩
          exact joinPath_of_isMountPoint p r ht (table.isMountPoint v hv _ hm')
  · -- the drive replaces the device name, and no volume is found
    rw [joinPath_device_drive hdevice hroot, table.fullImageNameToFileName_of_relative hrelative]
    refine iff_of_false ?_ fun h => hroot (rootName_eq_nil_iff.mp h.1)
    rintro ⟨m', -, h⟩
    exact hr (List.append_eq_nil_iff.mp (Option.some.inj h).symm).2

/-! ### Two volumes -/

/-- `\Device\HarddiskVolume1` at `D:\`. -/
def harddiskVolume1 : Volume where
  dosDeviceName := devicePrefix ++ [0x48, 0x61, 0x72, 0x64, 0x64, 0x69, 0x73, 0x6B, 0x56, 0x6F,
    0x6C, 0x75, 0x6D, 0x65, 0x31]
  mountPoints := ⟨[[0x44, 0x3A, 0x5C]], List.pairwise_singleton _ _⟩

/-- `\Device\HarddiskVolume10` at `C:\`. -/
def harddiskVolume10 : Volume where
  dosDeviceName := harddiskVolume1.dosDeviceName ++ [0x30]
  mountPoints := ⟨[[0x43, 0x3A, 0x5C]], List.pairwise_singleton _ _⟩

theorem mem_harddiskVolumes {v : Volume} (hv : v ∈ [harddiskVolume1, harddiskVolume10])
    {p : WString} (hp : p ∈ v.mountPoints) :
    v = harddiskVolume1 ∧ p = [0x44, 0x3A, 0x5C] ∨
      v = harddiskVolume10 ∧ p = [0x43, 0x3A, 0x5C] := by
  rcases List.mem_cons.mp hv with rfl | hv
  · exact .inl ⟨rfl, List.mem_singleton.mp hp⟩
  · obtain rfl := List.mem_singleton.mp hv
    exact .inr ⟨rfl, List.mem_singleton.mp hp⟩

theorem not_isSlash_of_all {name : WString} (h : name.all fun c => !isSlash c) :
    ∀ c ∈ name, isSlash c = false := by simpa using h

/-- The first volume is enumerated first. -/
def harddiskVolumes : MountTable where
  volumes := [harddiskVolume1, harddiskVolume10]
  isDosDeviceName v hv := by
    rcases List.mem_cons.mp hv with rfl | hv
    · exact ⟨_, List.cons_ne_nil _ _, not_isSlash_of_all (by decide), rfl⟩
    · obtain rfl := List.mem_singleton.mp hv
      refine ⟨[0x48, 0x61, 0x72, 0x64, 0x64, 0x69, 0x73, 0x6B, 0x56, 0x6F, 0x6C, 0x75, 0x6D, 0x65,
        0x31, 0x30], List.cons_ne_nil _ _, not_isSlash_of_all (by decide), rfl⟩
  nodup := by decide
  isMountPoint v hv p hp := by
    rcases mem_harddiskVolumes hv hp with ⟨-, rfl⟩ | ⟨-, rfl⟩ <;>
      exact ⟨by decide, by decide, by decide⟩
  nonempty := by decide
  disjoint u hu v hv p hp q hq hpq := by
    rcases mem_harddiskVolumes hu hp with ⟨rfl, rfl⟩ | ⟨rfl, rfl⟩ <;>
      rcases mem_harddiskVolumes hv hq with ⟨rfl, rfl⟩ | ⟨rfl, rfl⟩
    · exact ⟨rfl, rfl⟩
    · exact absurd hpq (by decide)
    · exact absurd hpq (by decide)
    · exact ⟨rfl, rfl⟩

theorem imageName_roundTrip_harddiskVolume1 :
    ∃ m' ∈ harddiskVolume1.mountPoints,
      (fileNameToFullImageName harddiskVolumes.volumes ([0x44, 0x3A, 0x5C] ++ [0x61])).bind
        (fullImageNameToFileName harddiskVolumes.volumes) = some (m' ++ [0x61]) := by
  refine (imageName_roundTrip_iff harddiskVolumes List.mem_cons_self List.mem_cons_self
    (List.cons_ne_nil _ _) rfl).mpr ⟨rfl, fun u hu => .inl ?_⟩
  have hfirst : harddiskVolumes.volumes.find?
      (fun u => u.dosDeviceName <+: harddiskVolume1.dosDeviceName) = some harddiskVolume1 := by
    decide
  exact Option.some.inj (hu.symm.trans hfirst)

/-- The file `C:\a` on the second volume is taken for `D:\a`. -/
theorem harddiskVolume10_mistaken :
    harddiskVolume10 ∈ harddiskVolumes.volumes ∧
      [0x43, 0x3A, 0x5C] ∈ harddiskVolume10.mountPoints ∧
      (fileNameToFullImageName harddiskVolumes.volumes ([0x43, 0x3A, 0x5C] ++ [0x61])).bind
        (fullImageNameToFileName harddiskVolumes.volumes) = some [0x44, 0x3A, 0x5C, 0x61] ∧
      ¬∃ m' ∈ harddiskVolume10.mountPoints,
        (fileNameToFullImageName harddiskVolumes.volumes ([0x43, 0x3A, 0x5C] ++ [0x61])).bind
          (fullImageNameToFileName harddiskVolumes.volumes) = some (m' ++ [0x61]) := by
  have hresult : (fileNameToFullImageName harddiskVolumes.volumes
      ([0x43, 0x3A, 0x5C] ++ [0x61])).bind
      (fullImageNameToFileName harddiskVolumes.volumes) = some [0x44, 0x3A, 0x5C, 0x61] := by decide
  refine ⟨by decide, by decide, hresult, ?_⟩
  rintro ⟨m', hm', h⟩
  obtain rfl : m' = [0x43, 0x3A, 0x5C] := List.mem_singleton.mp hm'
  rw [hresult] at h
  exact absurd h (by decide)

end HidHide
