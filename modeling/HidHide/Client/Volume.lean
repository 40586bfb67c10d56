import HidHide.Client.Path

/-!
# Volumes

The two directions of `Volume.cpp` between the name of a file and its full image name. The volumes
are enumerated in some order, each with its DOS device name and its set of mount points; a volume
name stands for the volume that it names. `none` is an exception.

The directions search differently: a file name by the longest mount point that it starts with, a
full image name by the first device name that it starts with.
-/

namespace HidHide

/-- A volume, as `DosDeviceNameForVolumeName` and `VolumeMountPoints` describe it. -/
structure Volume where
  dosDeviceName : WString
  mountPoints : OrderedSet pathLt
  deriving DecidableEq

/-- `IterateAllVolumeMountPointsForFileStorage`: what the callback is called for, in order. -/
def iterateAllVolumeMountPointsForFileStorage (volumes : List Volume) : List (Volume × WString) :=
  volumes.flatMap fun volume => volume.mountPoints.toList.map fun mountPoint => (volume, mountPoint)

/-- `FindVolumeMountPointForFullyQualifiedFileName`. -/
def findVolumeMountPointForFullyQualifiedFileName (volumes : List Volume)
    (fullyQualifiedFileName : WString) : WString :=
  (iterateAllVolumeMountPointsForFileStorage volumes).foldl
    (fun result (_, volumeMountPoint) =>
      if volumeMountPoint = fullyQualifiedFileName.take volumeMountPoint.length ∧
          result.length < volumeMountPoint.length then volumeMountPoint
      else result) []

/-- `FindVolumeMountPointAndDosDeviceNameForFullImageName`. -/
def findVolumeMountPointAndDosDeviceNameForFullImageName (volumes : List Volume)
    (fullImageName : WString) : WString × WString :=
  match (iterateAllVolumeMountPointsForFileStorage volumes).find? fun (volume, _) =>
      volume.dosDeviceName = fullImageName.take volume.dosDeviceName.length with
  | some (volume, volumeMountPoint) => (volumeMountPoint, volume.dosDeviceName)
  | none => ([], [])

/-- `VolumeNameForVolumeMountPoint`. -/
def volumeNameForVolumeMountPoint (volumes : List Volume) (volumeMountPoint : WString) :
    Option Volume :=
  volumes.find? fun volume => volumeMountPoint ∈ volume.mountPoints

/-- `FileNameToFullImageName`. -/
def fileNameToFullImageName (volumes : List Volume) (fullyQualifiedFileName : WString) :
    Option WString :=
  let volumeMountPoint :=
    findVolumeMountPointForFullyQualifiedFileName volumes fullyQualifiedFileName
  if volumeMountPoint = [] then some []
  else
    match volumeNameForVolumeMountPoint volumes volumeMountPoint with
    | none => none
    | some volume =>
        some (joinPath volume.dosDeviceName (fullyQualifiedFileName.drop volumeMountPoint.length))

/-- `FullImageNameToFileName`. `substr` throws when it starts past the end. -/
def fullImageNameToFileName (volumes : List Volume) (fullImageName : WString) : Option WString :=
  let (volumeMountPoint, dosDeviceName) :=
    findVolumeMountPointAndDosDeviceNameForFullImageName volumes fullImageName
  if volumeMountPoint = [] then some []
  else if fullImageName.length < dosDeviceName.length + 1 then none
  else some (joinPath volumeMountPoint (fullImageName.drop (dosDeviceName.length + 1)))

/-! ### The searches -/

theorem mem_iterate {volumes : List Volume} {volume : Volume} {mountPoint : WString} :
    (volume, mountPoint) ∈ iterateAllVolumeMountPointsForFileStorage volumes ↔
      volume ∈ volumes ∧ mountPoint ∈ volume.mountPoints := by
  rw [iterateAllVolumeMountPointsForFileStorage, List.mem_flatMap]
  constructor
  · rintro ⟨v, hv, hmem⟩
    obtain ⟨p, hp, heq⟩ := List.mem_map.mp hmem
    obtain ⟨rfl, rfl⟩ := Prod.mk.inj heq
    exact ⟨hv, hp⟩
  · rintro ⟨hv, hp⟩
    exact ⟨volume, hv, List.mem_map.mpr ⟨mountPoint, hp, rfl⟩⟩

/-- The fold keeps the longest mount point that the file name starts with. -/
theorem foldl_longest {fileName : WString} {l : List (Volume × WString)} {result found : WString}
    (h : l.foldl (fun result (x : Volume × WString) =>
      if x.2 = fileName.take x.2.length ∧ result.length < x.2.length then x.2 else result) result =
        found) :
    (found = result ∨ ∃ x ∈ l, x.2 = found ∧ found <+: fileName) ∧
      result.length ≤ found.length ∧ ∀ x ∈ l, x.2 <+: fileName → x.2.length ≤ found.length := by
  induction l generalizing result with
  | nil =>
    obtain rfl : result = found := h
    exact ⟨.inl rfl, le_rfl, fun x hx => absurd hx List.not_mem_nil⟩
  | cons x l ih =>
    rw [List.foldl_cons] at h
    by_cases hx : x.2 = fileName.take x.2.length ∧ result.length < x.2.length
    · rw [if_pos hx] at h
      obtain ⟨hfound, hle, hall⟩ := ih h
      refine ⟨.inr ?_, hx.2.le.trans hle, List.forall_mem_cons.mpr ⟨fun _ => hle, hall⟩⟩
      rcases hfound with heq | ⟨y, hy, heq⟩
      · exact ⟨x, List.mem_cons_self, heq.symm, heq ▸ List.prefix_iff_eq_take.mpr hx.1⟩
      · exact ⟨y, List.mem_cons_of_mem x hy, heq⟩
    · rw [if_neg hx] at h
      obtain ⟨hfound, hle, hall⟩ := ih h
      refine ⟨hfound.imp_right fun ⟨y, hy, heq⟩ => ⟨y, List.mem_cons_of_mem x hy, heq⟩, hle,
        List.forall_mem_cons.mpr ⟨fun hpre => ?_, hall⟩⟩
      -- it is not longer than what has been found before
      rw [List.prefix_iff_eq_take] at hpre
      exact (not_lt.mp fun hlt => hx ⟨hpre, hlt⟩).trans hle

/-- The longest mount point that the file name starts with is found. -/
theorem findVolumeMountPoint_eq {volumes : List Volume} {fileName mountPoint : WString}
    {volume : Volume} (hvolume : volume ∈ volumes) (hmem : mountPoint ∈ volume.mountPoints)
    (hne : mountPoint ≠ []) (hpre : mountPoint <+: fileName)
    (hlongest : ∀ v ∈ volumes, ∀ p ∈ v.mountPoints, p <+: fileName →
      p.length ≤ mountPoint.length) :
    findVolumeMountPointForFullyQualifiedFileName volumes fileName = mountPoint := by
  obtain ⟨hfound, -, hall⟩ := foldl_longest
    (rfl : _ = findVolumeMountPointForFullyQualifiedFileName volumes fileName)
  have hle := hall _ (mem_iterate.mpr ⟨hvolume, hmem⟩) hpre
  rcases hfound with hnil | ⟨x, hx, hmount, hstarts⟩
  · rw [hnil, List.length_nil, Nat.le_zero] at hle
    exact absurd (List.length_eq_zero_iff.mp hle) hne
  · obtain ⟨hv, hp⟩ := mem_iterate.mp hx
    have hge := hlongest x.1 hv x.2 hp (hmount ▸ hstarts)
    rw [hmount] at hge
    exact (List.prefix_of_prefix_length_le hstarts hpre hge).eq_of_length (le_antisymm hge hle)

/-- Without such a mount point, none is found. -/
theorem findVolumeMountPoint_eq_nil {volumes : List Volume} {fileName : WString}
    (hnone : ∀ v ∈ volumes, ∀ p ∈ v.mountPoints, ¬p <+: fileName) :
    findVolumeMountPointForFullyQualifiedFileName volumes fileName = [] := by
  obtain ⟨hfound, -, -⟩ := foldl_longest
    (rfl : _ = findVolumeMountPointForFullyQualifiedFileName volumes fileName)
  rcases hfound with hnil | ⟨x, hx, hmount, hstarts⟩
  · exact hnil
  · obtain ⟨hv, hp⟩ := mem_iterate.mp hx
    exact absurd (hmount ▸ hstarts) (hnone x.1 hv x.2 hp)

/-- The volumes are searched in order, each by its first mount point. -/
theorem find?_iterate {volumes : List Volume} (hmount : ∀ v ∈ volumes, v.mountPoints.toList ≠ [])
    (test : Volume → Bool) {u : Volume} (hu : volumes.find? test = some u) :
    ∃ mountPoint ∈ u.mountPoints,
      (iterateAllVolumeMountPointsForFileStorage volumes).find? (fun x => test x.1) =
        some (u, mountPoint) := by
  induction volumes with
  | nil => simp at hu
  | cons v volumes ih =>
    obtain ⟨hv, hvolumes⟩ := List.forall_mem_cons.mp hmount
    have hcons : iterateAllVolumeMountPointsForFileStorage (v :: volumes) =
        v.mountPoints.toList.map (fun p => (v, p)) ++
          iterateAllVolumeMountPointsForFileStorage volumes := List.flatMap_cons
    rw [hcons, List.find?_append, List.find?_map]
    by_cases hmatch : test v
    · obtain ⟨p, ps, hp⟩ := List.exists_cons_of_ne_nil hv
      obtain rfl : v = u := by simpa [hmatch] using hu
      refine ⟨p, ?_, ?_⟩
      · rw [← OrderedSet.mem_toList, hp]
        exact List.mem_cons_self
      · simp [hp, hmatch]
    · -- none of its mount points is found
      rw [List.find?_cons_of_neg hmatch] at hu
      obtain ⟨p, hp, hfind⟩ := ih hvolumes hu
      have hnone : v.mountPoints.toList.find?
          ((fun x : Volume × WString => test x.1) ∘ fun p => (v, p)) = none :=
        List.find?_eq_none.mpr fun x _ => hmatch
      refine ⟨p, hp, ?_⟩
      rw [hnone, hfind]
      rfl

end HidHide
