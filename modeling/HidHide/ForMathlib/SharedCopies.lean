import HidHide.ForMathlib.Machine

/-!
# Copies of a shared value

Clients share a value, and each edits a copy of its own. A client takes its copy together with a
first edit, which is written at once. Then it edits the copy, and either writes each edit through or
writes the copy when it says so. What keeps the value need only stand for it, and what a client has
as its copy need only show it.

With several copies at a time a client writes over what others have written. When a copy is taken
only if there is no other, no edit is lost: the value is what the edits that have been written make
of it, one after another (`follows_run`).
-/

/-- How clients go about a value that `σ` keeps: with copies `κ`, first edits `α` and edits `ε`. -/
structure Editor (σ κ α ε : Type*) where
  writesThrough : κ → Bool
  take : Bool → α → σ → Option (κ × σ)
  edit : ε → κ × σ → Option (κ × σ)
  write : κ × σ → Option σ

/-- What keeps the value, and the clients that have a copy. -/
structure SharedCopies (ι σ κ : Type*) where
  copies : List (ι × κ)
  shared : σ

namespace SharedCopies

/-- What a client does. -/
inductive Action (α ε : Type*) where
  | take (writeThrough : Bool) (a : α)
  | edit (e : ε)
  | write
  | leave
  deriving DecidableEq

variable {ι σ κ α ε V : Type*} [DecidableEq ι]

/-- The copy of a client. -/
def copyOf (s : SharedCopies ι σ κ) (i : ι) : Option κ := s.copies.lookup i

/-- A client has another copy. -/
def setCopy (s : SharedCopies ι σ κ) (i : ι) (k : κ) : List (ι × κ) :=
  s.copies.map fun q => if q.1 = i then (i, k) else q

/-- A client acts. If copies are exclusive, none is taken while there is one. -/
def step (ed : Editor σ κ α ε) (exclusive : Bool) (s : SharedCopies ι σ κ) (p : ι × Action α ε) :
    Option (SharedCopies ι σ κ) :=
  match p.2 with
  | .take writeThrough a =>
      if (s.copyOf p.1).isSome then none
      else if exclusive && !s.copies.isEmpty then some s
      else (ed.take writeThrough a s.shared).map fun r => ⟨(p.1, r.1) :: s.copies, r.2⟩
  | .edit e => (s.copyOf p.1).bind fun k =>
      (ed.edit e (k, s.shared)).map fun r => ⟨s.setCopy p.1 r.1, r.2⟩
  | .write => (s.copyOf p.1).bind fun k =>
      (ed.write (k, s.shared)).map fun shared => { s with shared }
  | .leave => some { s with copies := s.copies.filter fun q => q.1 ≠ p.1 }

end SharedCopies

/-! ### What is written -/

/-- A client has its turn, with edits that it has not written. -/
structure Turn (ι ε : Type*) where
  client : ι
  writeThrough : Bool
  pending : List ε

/-- The edits that have been written in turn. -/
structure Ledger (ι α ε : Type*) where
  written : List (α ⊕ ε) := []
  turn : Option (Turn ι ε) := none

namespace Ledger

variable {ι α ε : Type*} [DecidableEq ι]

/-- An action of the client whose turn it is. -/
def act (l : Ledger ι α ε) (t : Turn ι ε) : SharedCopies.Action α ε → Ledger ι α ε
  | .take _ _ => l
  | .edit e =>
      if t.writeThrough then { l with written := l.written ++ [.inr e] }
      else { l with turn := some { t with pending := t.pending ++ [e] } }
  | .write =>
      { written := l.written ++ t.pending.map .inr, turn := some { t with pending := [] } }
  | .leave => { l with turn := none }

/-- Edits are written in turn: without a turn there is nothing but to take one. -/
def step (l : Ledger ι α ε) (p : ι × SharedCopies.Action α ε) : Ledger ι α ε :=
  match l.turn with
  | none =>
      match p.2 with
      | .take writeThrough a =>
          { written := l.written ++ [.inl a], turn := some ⟨p.1, writeThrough, []⟩ }
      | _ => l
  | some t => if t.client = p.1 then l.act t p.2 else l

end Ledger

/-! ### No edit is lost -/

/-- An editor does to the value what its edits say, as long as its copies are `Ok`. -/
structure Editor.Edits {σ κ α ε V : Type*} (ed : Editor σ κ α ε) (stands : V → σ → Prop)
    (shows : κ → V → Prop) (effect : V → α ⊕ ε → V) (Ok : κ → Prop) : Prop where
  take : ∀ {v s writeThrough a r}, stands v s → ed.take writeThrough a s = some r → Ok r.1 →
    stands (effect v (.inl a)) r.2 ∧ shows r.1 (effect v (.inl a)) ∧
      ed.writesThrough r.1 = writeThrough
  edit : ∀ {v s k e r}, shows k v → ed.edit e (k, s) = some r →
    shows r.1 (effect v (.inr e)) ∧ ed.writesThrough r.1 = ed.writesThrough k
  through : ∀ {v s k e r}, ed.writesThrough k = true → stands v s → shows k v →
    ed.edit e (k, s) = some r → Ok r.1 → stands (effect v (.inr e)) r.2
  deferred : ∀ {v s k e r}, ed.writesThrough k = false → stands v s →
    ed.edit e (k, s) = some r → stands v r.2
  write : ∀ {v w s k s'}, stands v s → shows k w → Ok k → ed.write (k, s) = some s' → stands w s'

namespace SharedCopies

variable {ι σ κ α ε V : Type*} [DecidableEq ι] {ed : Editor σ κ α ε} {stands : V → σ → Prop}
  {shows : κ → V → Prop} {effect : V → α ⊕ ε → V} {Ok : κ → Prop} {s s' : SharedCopies ι σ κ}
  {l : Ledger ι α ε} {v₀ : V}

/-- The copy of a turn shows what the edits that are pending make of the value. -/
structure HasTurn (ed : Editor σ κ α ε) (shows : κ → V → Prop) (effect : V → α ⊕ ε → V) (v : V)
    (copies : List (ι × κ)) (t : Turn ι ε) (k : κ) : Prop where
  copies : copies = [(t.client, k)]
  writesThrough : ed.writesThrough k = t.writeThrough
  pending : t.writeThrough = true → t.pending = []
  shows : shows k ((t.pending.map .inr).foldl effect v)

/-- The value is what the written edits make of it, and at most one client has a copy. -/
structure Follows (ed : Editor σ κ α ε) (stands : V → σ → Prop) (shows : κ → V → Prop)
    (effect : V → α ⊕ ε → V) (v₀ : V) (s : SharedCopies ι σ κ) (l : Ledger ι α ε) : Prop where
  stands : stands (l.written.foldl effect v₀) s.shared
  free : l.turn = none → s.copies = []
  turn : ∀ t ∈ l.turn, ∃ k, HasTurn ed shows effect (l.written.foldl effect v₀) s.copies t k

/-- The copies are fit to be written after the step. -/
def Fit (ed : Editor σ κ α ε) (Ok : κ → Prop) (s : SharedCopies ι σ κ) (p : ι × Action α ε) :
    Prop :=
  ∀ s' ∈ step ed true s p, ∀ q ∈ s'.copies, Ok q.2

instance [DecidablePred Ok] (s : SharedCopies ι σ κ) (p : ι × Action α ε) :
    Decidable (Fit ed Ok s p) :=
  inferInstanceAs (Decidable (∀ s' ∈ step ed true s p, ∀ q ∈ s'.copies, Ok q.2))

/-- **A turn is taken** when no one has a copy. -/
theorem follows_take (hed : ed.Edits stands shows effect Ok)
    (hs : Follows ed stands shows effect v₀ s l) (hturn : l.turn = none) {i : ι}
    {action : Action α ε} (hfit : Fit ed Ok s (i, action))
    (h : step ed true s (i, action) = some s') :
    Follows ed stands shows effect v₀ s' (l.step (i, action)) := by
  have hempty : s.copies = [] := hs.free hturn
  have hcopy : s.copyOf i = none := by simp [copyOf, hempty]
  cases action with
  | take writeThrough a =>
    have htake : step ed true s (i, .take writeThrough a) =
        (ed.take writeThrough a s.shared).map fun r => ⟨(i, r.1) :: s.copies, r.2⟩ := by
      simp [step, hcopy, hempty]
    obtain ⟨r, hr, rfl⟩ := Option.map_eq_some_iff.mp (htake.symm.trans h)
    have hok : Ok r.1 := hfit _ h _ List.mem_cons_self
    obtain ⟨hstands, hshows, hmode⟩ := hed.take hs.stands hr hok
    have hwritten : (l.step (i, .take writeThrough a)).written.foldl effect v₀ =
        effect (l.written.foldl effect v₀) (.inl a) := by
      simp [Ledger.step, hturn]
    have hnext : (l.step (i, .take writeThrough a)).turn = some ⟨i, writeThrough, []⟩ := by
      simp [Ledger.step, hturn]
    refine ⟨hwritten ▸ hstands, fun hnone => ?_, fun t ht => ⟨r.1, ?_⟩⟩
    · rw [hnext] at hnone
      cases hnone
    · rw [hnext] at ht
      obtain rfl := Option.some.inj ht
      exact ⟨by rw [hempty], hmode, fun _ => rfl, hwritten ▸ hshows⟩
  | edit e => simp [step, hcopy] at h
  | write => simp [step, hcopy] at h
  | leave =>
    obtain rfl := Option.some.inj h
    have hsame : l.step (i, .leave) = l := by simp [Ledger.step, hturn]
    rw [hsame]
    refine ⟨hs.stands, fun _ => by simp [hempty], fun t ht => ?_⟩
    cases hturn.symm.trans ht

/-- A client acts whose turn it is not: nothing comes of it. -/
theorem step_of_not_turn {i j : ι} {k : κ} (hcopies : s.copies = [(j, k)]) (hne : j ≠ i)
    {action : Action α ε} (h : step ed true s (i, action) = some s') : s' = s := by
  have hcopy : s.copyOf i = none := by simp [copyOf, hcopies, hne.symm]
  cases action with
  | take writeThrough a =>
    rw [step, hcopy, hcopies] at h
    exact (Option.some.inj h).symm
  | edit e => simp [step, hcopy] at h
  | write => simp [step, hcopy] at h
  | leave =>
    obtain rfl := Option.some.inj h
    obtain ⟨copies, shared⟩ := s
    obtain rfl : copies = [(j, k)] := hcopies
    simp [hne]

/-- **A client acts** whose turn it is. -/
theorem follows_act (hed : ed.Edits stands shows effect Ok)
    (hs : Follows ed stands shows effect v₀ s l) {t : Turn ι ε} (ht : l.turn = some t)
    {action : Action α ε} (hfit : Fit ed Ok s (t.client, action))
    (h : step ed true s (t.client, action) = some s') :
    Follows ed stands shows effect v₀ s' (l.act t action) := by
  obtain ⟨k, hturn⟩ := hs.turn t ht
  have hcopy : s.copyOf t.client = some k := by simp [copyOf, hturn.copies]
  cases action with
  | take writeThrough a => simp [step, hcopy] at h
  | edit e =>
    have hedit : step ed true s (t.client, .edit e) =
        (ed.edit e (k, s.shared)).map fun r => ⟨[(t.client, r.1)], r.2⟩ := by
      simp [step, hcopy, setCopy, hturn.copies]
    obtain ⟨r, hr, rfl⟩ := Option.map_eq_some_iff.mp (hedit.symm.trans h)
    have hok : Ok r.1 := hfit _ h _ List.mem_cons_self
    obtain ⟨hshows, hmode⟩ := hed.edit hturn.shows hr
    rcases hthrough : t.writeThrough with _ | _
    · -- the edit is pending
      rw [Ledger.act, hthrough, if_neg Bool.false_ne_true]
      refine ⟨hed.deferred (hturn.writesThrough.trans hthrough) hs.stands hr,
        nofun, fun t' ht' => ⟨r.1, ?_⟩⟩
      obtain rfl := Option.some.inj ht'
      refine ⟨rfl, hmode.trans (hturn.writesThrough.trans hthrough), nofun, ?_⟩
      rw [List.map_append, List.foldl_append]
      exact hshows
    · have hpending := hturn.pending hthrough
      have hcurrent : shows k (l.written.foldl effect v₀) := by
        have hcopyShows := hturn.shows
        rwa [hpending] at hcopyShows
      rw [Ledger.act, hthrough, if_pos rfl]
      refine ⟨?_, fun hnone => ?_, fun t' ht' => ⟨r.1, ?_⟩⟩
      · rw [List.foldl_append]
        exact hed.through (hturn.writesThrough.trans hthrough) hs.stands hcurrent hr hok
      · cases ht.symm.trans hnone
      · obtain rfl : t = t' := Option.some.inj (ht.symm.trans ht')
        refine ⟨rfl, hmode.trans hturn.writesThrough, fun _ => hpending, ?_⟩
        rw [hpending, List.foldl_append]
        exact (hed.edit hcurrent hr).1
  | write =>
    have hwrite : step ed true s (t.client, .write) =
        (ed.write (k, s.shared)).map fun shared => { s with shared } := by
      simp [step, hcopy]
    obtain ⟨shared, hshared, rfl⟩ := Option.map_eq_some_iff.mp (hwrite.symm.trans h)
    have hmem : (t.client, k) ∈ s.copies := by rw [hturn.copies]; exact List.mem_singleton_self _
    have hok : Ok k := hfit _ h _ hmem
    have hstands := hed.write hs.stands hturn.shows hok hshared
    rw [Ledger.act]
    refine ⟨?_, nofun, fun t' ht' => ⟨k, ?_⟩⟩
    · rw [List.foldl_append]
      exact hstands
    · obtain rfl := Option.some.inj ht'
      refine ⟨hturn.copies, hturn.writesThrough, fun _ => rfl, ?_⟩
      rw [List.foldl_append]
      exact hturn.shows
  | leave =>
    obtain rfl := Option.some.inj h
    refine ⟨hs.stands, fun _ => ?_, nofun⟩
    simp [hturn.copies]

/-- **One action** of a client. -/
theorem follows_step (hed : ed.Edits stands shows effect Ok)
    (hs : Follows ed stands shows effect v₀ s l) {p : ι × Action α ε} (hfit : Fit ed Ok s p)
    (h : step ed true s p = some s') : Follows ed stands shows effect v₀ s' (l.step p) := by
  obtain ⟨i, action⟩ := p
  rcases hturn : l.turn with _ | t
  · exact follows_take hed hs hturn hfit h
  · by_cases hclient : t.client = i
    · subst hclient
      have hact : l.step (t.client, action) = l.act t action := by simp [Ledger.step, hturn]
      rw [hact]
      exact follows_act hed hs hturn hfit h
    · obtain ⟨k, hhas⟩ := hs.turn t hturn
      have hsame : l.step (i, action) = l := by simp [Ledger.step, hturn, hclient]
      rw [hsame, step_of_not_turn hhas.copies hclient h]
      exact hs

/-- **No edit is lost**: when copies are exclusive, the value is what the edits that have been
written make of it, in their order. -/
theorem follows_run (hed : ed.Edits stands shows effect Ok)
    (hs : Follows ed stands shows effect v₀ s l) {actions : List (ι × Action α ε)}
    (hfit : Machine.Along (step ed true) (Fit ed Ok) s actions)
    (h : Machine.run (step ed true) s actions = some s') :
    Follows ed stands shows effect v₀ s' (actions.foldl Ledger.step l) := by
  induction actions generalizing s l with
  | nil =>
    obtain rfl := Option.some.inj h
    exact hs
  | cons p actions ih =>
    obtain ⟨t, ht, h⟩ := Option.bind_eq_some_iff.mp h
    exact ih (follows_step hed hs hfit.1 ht) (hfit.2 t ht) h

omit [DecidableEq ι] in
/-- A copy that is written through shows the value. -/
theorem Follows.shows_of_writesThrough (hs : Follows ed stands shows effect v₀ s l) {q : ι × κ}
    (hq : q ∈ s.copies) (hthrough : ed.writesThrough q.2 = true) :
    shows q.2 (l.written.foldl effect v₀) := by
  rcases hturn : l.turn with _ | t
  · rw [hs.free hturn] at hq
    cases hq
  · obtain ⟨k, hhas⟩ := hs.turn t hturn
    rw [hhas.copies] at hq
    obtain rfl := List.mem_singleton.mp hq
    have hshows := hhas.shows
    rwa [hhas.pending (hhas.writesThrough.symm.trans hthrough)] at hshows

end SharedCopies
