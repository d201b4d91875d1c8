import ImageSensor.Device.Negotiation
import ImageSensor.Proofs.Attaching
import ImageSensor.Proofs.ControlLimits
import ImageSensor.Proofs.Requests
import Mathlib.Data.List.MinMax

/-!
# The mode nearest to a requested size

Among the entries of the catalog the search picks the first of those at the
least exact distance.  The distance of a size is a sum of two words, though,
and a size may be so large that the sum is no word: then the search overflows,
and with it every request that names the size.  Nothing else about such a
request can overflow.
-/

namespace ImageSensor

namespace Mode

theorem distance_of_near {m : Mode} {width height : UInt32}
    (h : m.exactDistance width height < UInt32.size) :
    exists d, m.distance width height = .ok d ∧ d.toNat = m.exactDistance width height := by
  have hword := UInt32.toNat_ofNat_of_lt h
  exact ⟨_, distance_eq_ok_iff.mpr hword.symm, hword⟩

theorem distance_of_far {m : Mode} {width height : UInt32}
    (h : UInt32.size ≤ m.exactDistance width height) :
    m.distance width height = .error .add := by
  apply if_neg
  rw [Checked.toNat_distance, Checked.toNat_distance]
  exact Nat.not_lt.mpr h

end Mode

namespace Catalog

/-- The exact distance of an entry from a requested size. -/
def gap (width height : UInt32) (entry : Entry) : Nat :=
  entry.mode.exactDistance width height

/-- The distances of all entries from a requested size are words. -/
def Near (width height : UInt32) : Prop :=
  forall entry, entry ∈ entries -> gap width height entry < UInt32.size

instance (width height : UInt32) : Decidable (Near width height) :=
  inferInstanceAs (Decidable (forall entry, entry ∈ entries -> _))

theorem near_of_moderate {width height : UInt32} (hwidth : width.toNat < 0x80000000)
    (hheight : height.toNat < 0x80000000) : Near width height := by
  have hsmall : forall entry, entry ∈ entries ->
      entry.mode.width.toNat < 0x80000000 ∧ entry.mode.height.toNat < 0x80000000 := by
    decide
  intro entry hentry
  have hentry := hsmall entry hentry
  have hsize : UInt32.size = 0x80000000 + 0x80000000 := rfl
  unfold gap Mode.exactDistance
  omega

/-!
# The search

Of an entry and the one behind it only the nearer matters, the first if they
are equally near; this is how the search proceeds, and how a first minimum is
found.
-/

section

variable {width height distance : UInt32} {best : Entry} {rest : List Entry}

theorem argmin_cons_cons {α : Type} (cost : α -> Nat) (a b : α) (rest : List α) :
    (a :: b :: rest).argmin cost =
      ((if cost b < cost a then b else a) :: rest).argmin cost := by
  unfold List.argmin
  simp only [List.foldl_cons, List.argAux]
  split <;> rfl

theorem nearest_of_near (hbest : distance.toNat = gap width height best)
    (hrest : forall entry, entry ∈ rest -> gap width height entry < UInt32.size) :
    exists e, (best :: rest).argmin (gap width height) = some e ∧
      nearest width height best distance rest = .ok e := by
  induction rest generalizing best distance with
  | nil => exact ⟨best, rfl, rfl⟩
  | cons entry rest ih =>
      rcases Mode.distance_of_near (hrest entry List.mem_cons_self) with
        ⟨next, hdistance, hnext⟩
      have hlater := fun e he => hrest e (List.mem_cons_of_mem entry he)
      have hless : next < distance <-> gap width height entry < gap width height best := by
        rw [UInt32.lt_iff_toNat_lt, hnext, hbest]
        rfl
      rw [argmin_cons_cons]
      simp only [nearest, hdistance]
      show exists e, _ ∧ (if next < distance then _ else _) = _
      by_cases h : next < distance
      · rw [if_pos h, if_pos (hless.mp h)]
        exact ih hnext hlater
      · rw [if_neg h, if_neg fun hgap => h (hless.mpr hgap)]
        exact ih hbest hlater

/-- One entry that is too far is enough for an overflow. -/
theorem nearest_of_far {far : Entry} (hfar : far ∈ rest)
    (hgap : UInt32.size ≤ gap width height far) :
    nearest width height best distance rest = .error .add := by
  induction rest generalizing best distance with
  | nil => cases hfar
  | cons entry rest ih =>
      simp only [nearest]
      by_cases hnear : gap width height entry < UInt32.size
      · rcases Mode.distance_of_near hnear with ⟨next, hdistance, -⟩
        have hbehind : far ∈ rest := by
          rcases List.mem_cons.mp hfar with rfl | hbehind
          · exact absurd hnear (Nat.not_lt.mpr hgap)
          · exact hbehind
        rw [hdistance]
        show (if next < distance then _ else _) = _
        split
        case isTrue => exact ih hbehind
        case isFalse => exact ih hbehind
      · rw [Mode.distance_of_far (Nat.not_lt.mp hnear)]
        rfl

end

theorem bestFit_of_near {width height : UInt32} (h : Near width height) :
    exists e, entries.argmin (gap width height) = some e ∧
      bestFit width height = .ok e := by
  rcases Mode.distance_of_near (h first List.mem_cons_self) with
    ⟨distance, hdistance, hfirst⟩
  unfold bestFit
  rw [hdistance]
  exact nearest_of_near hfirst fun e he => h e (List.mem_cons_of_mem first he)

theorem bestFit_of_not_near {width height : UInt32} (h : ¬ Near width height) :
    bestFit width height = .error .add := by
  unfold Near at h
  push Not at h
  rcases h with ⟨far, hfar, hgap⟩
  unfold bestFit
  by_cases hfirst : gap width height first < UInt32.size
  · rcases Mode.distance_of_near hfirst with ⟨distance, hdistance, -⟩
    have hbehind : far ∈ others := by
      rcases List.mem_cons.mp hfar with rfl | hbehind
      · exact absurd hfirst (Nat.not_lt.mpr hgap)
      · exact hbehind
    rw [hdistance]
    exact nearest_of_far hbehind hgap
  · rw [Mode.distance_of_far (Nat.not_lt.mp hfirst)]
    rfl

end Catalog

/-!
# Requests that name a size
-/

namespace Device

/-- The device may use an entry now: it does not stream in another. -/
def Admits (d : Device) (entry : Entry) : Prop :=
  d.session.streaming = true -> d.session.entry = entry

section

variable {d : Device} {entry : Entry}

theorem run_switchMode_of_admits (hentry : entry ∈ Catalog.entries)
    (hadmits : d.Admits entry) :
    exists d', (switchMode entry).run d = ⟨.ok (), d', []⟩ ∧ d'.session.entry = entry := by
  rcases ControlSet.applyMode_of_wellFormed (Catalog.wellFormed hentry) d.controls with
    ⟨applied, happlied⟩
  have hfree : ¬ (d.session.streaming ∧ d.session.entry ≠ entry) :=
    fun h => h.2 (hadmits h.1)
  simp [switchMode, selectMode, Action.run_bind, hfree, happlied, run_changeSession,
    run_changeControls, Outcome.after]

theorem run_switchMode_of_not_admits (hbusy : ¬ d.Admits entry) :
    (switchMode entry).run d = ⟨.error (.reported .busy), d, []⟩ := by
  unfold Admits at hbusy
  push Not at hbusy
  simp [switchMode, Action.run_bind, hbusy, Outcome.after]

end

section

variable {d d' : Device} {pad width height : UInt32} {target : FormatTarget} {e : Entry}

theorem run_setFormat_of_overflow {kind : Overflow}
    (h : Catalog.bestFit width height = .error kind) :
    (setFormat pad target width height).run d = ⟨.error (.overflow kind), d, []⟩ := by
  simp [setFormat, Action.run_bind, h]

theorem run_setFormat_of_ok (h : Catalog.bestFit width height = .ok e)
    (hadopt : (adopt pad e target).run d = ⟨.ok (), d', []⟩) :
    (setFormat pad target width height).run d =
      ⟨.ok (FrameFormat.ofMode e.mode pad), d', []⟩ := by
  unfold setFormat
  simp only [Action.run_bind, h, Action.run_compute_ok, hadopt, Action.run_pure]
  rfl

theorem run_setFormat_of_error {failure : Failure}
    (h : Catalog.bestFit width height = .ok e)
    (hadopt : (adopt pad e target).run d = ⟨.error failure, d', []⟩) :
    (setFormat pad target width height).run d = ⟨.error failure, d', []⟩ := by
  unfold setFormat
  simp only [Action.run_bind, h, Action.run_compute_ok, hadopt]
  rfl

theorem run_setMode_of_ok {format : FrameFormat}
    (h : (setFormat 0 .active width height).run d = ⟨.ok format, d', []⟩) :
    (setMode width height).run d = ⟨.ok d'.session.entry, d', []⟩ := by
  unfold setMode
  rw [Action.run_bind, h]
  rfl

theorem run_setMode_of_error {failure : Failure}
    (h : (setFormat 0 .active width height).run d = ⟨.error failure, d', []⟩) :
    (setMode width height).run d = ⟨.error failure, d', []⟩ := by
  unfold setMode
  rw [Action.run_bind, h]

end

/-!
A size in reach is answered with the nearest mode, or refused as busy; a size
out of reach ends the run before anything was done.
-/

theorem answers_size (d : Device) (pad width height : UInt32) :
    (Catalog.Near width height ->
      exists e,
        Catalog.entries.argmin (Catalog.gap width height) = some e ∧
        Catalog.bestFit width height = .ok e ∧
        ((setFormat pad .scratch width height).run d).result =
          .ok (FrameFormat.ofMode e.mode pad) ∧
        (d.Admits e ->
          ((setFormat pad .active width height).run d).result =
            .ok (FrameFormat.ofMode e.mode pad) ∧
          ((setMode width height).run d).result = .ok e) ∧
        (¬ d.Admits e ->
          (setFormat pad .active width height).run d =
            ⟨.error (.reported .busy), d, []⟩ ∧
          (setMode width height).run d = ⟨.error (.reported .busy), d, []⟩)) ∧
    (¬ Catalog.Near width height ->
      Catalog.bestFit width height = .error .add ∧
      (forall target,
        (setFormat pad target width height).run d = ⟨.error (.overflow .add), d, []⟩) ∧
      (setMode width height).run d = ⟨.error (.overflow .add), d, []⟩) := by
  constructor
  · intro hnear
    rcases Catalog.bestFit_of_near hnear with ⟨e, hleast, hfit⟩
    refine ⟨e, hleast, hfit, ?_, ?_, ?_⟩
    · rw [run_setFormat_of_ok hfit rfl]
    · intro hadmits
      rcases run_switchMode_of_admits (Catalog.bestFit_mem hfit) hadmits with
        ⟨d', hswitch, hentry⟩
      have hgranted : forall pad, (setFormat pad .active width height).run d =
          ⟨.ok (FrameFormat.ofMode e.mode pad), d', []⟩ :=
        fun pad => run_setFormat_of_ok hfit hswitch
      constructor
      · rw [hgranted pad]
      · rw [run_setMode_of_ok (hgranted 0), hentry]
    · intro hbusy
      have hswitch := run_switchMode_of_not_admits hbusy
      have hrefused : forall pad, (setFormat pad .active width height).run d =
          ⟨.error (.reported .busy), d, []⟩ :=
        fun pad => run_setFormat_of_error hfit hswitch
      exact ⟨hrefused pad, run_setMode_of_error (hrefused 0)⟩
  · intro hfar
    have hfit := Catalog.bestFit_of_not_near hfar
    exact ⟨hfit, fun target => run_setFormat_of_overflow hfit,
      run_setMode_of_error (run_setFormat_of_overflow hfit)⟩

theorem answers_small_and_refuses_largest :
    ((setMode 640 480).run (initial .standard .sound)).result = .ok Catalog.first ∧
      (setMode 0xffffffff 0xffffffff).run (initial .standard .sound) =
        ⟨.error (.overflow .add), initial .standard .sound, []⟩ := by
  have hnear : Catalog.Near 640 480 := Catalog.near_of_moderate (by decide) (by decide)
  have hfar : ¬ Catalog.Near 0xffffffff 0xffffffff := by decide
  constructor
  · rcases (answers_size (initial .standard .sound) 0 640 480).1 hnear with
      ⟨e, hleast, -, -, hadmitted, -⟩
    have hfirst : Catalog.entries.argmin (Catalog.gap 640 480) = some Catalog.first := by
      decide
    rw [hfirst] at hleast
    cases hleast
    exact (hadmitted fun hstreaming => nomatch hstreaming).2
  · exact ((answers_size (initial .standard .sound) 0 _ _).2 hfar).2.2

/-- The largest size is out of reach. -/
theorem size_without_answer :
    ¬ forall width height : UInt32,
      exists e, Catalog.bestFit width height = .ok e ∧
        Catalog.entries.argmin (Catalog.gap width height) = some e := by
  intro hall
  rcases hall 0xffffffff 0xffffffff with ⟨e, hfit, -⟩
  have hfar : ¬ Catalog.Near 0xffffffff 0xffffffff := by decide
  rw [Catalog.bestFit_of_not_near hfar] at hfit
  cases hfit

end Device
end ImageSensor
