import ImageSensor.Proofs.PowerSequence

/-!
# Users and power

The host, the stream and the boot stage each count as one user, and the device
is powered exactly while there are users.  The contracts of adding and removing
a user say that they move the count by one and keep this, whichever step of a
power sequence is refused.  The log since some earlier moment is watched along
with the state.
-/

namespace ImageSensor

/-!
# Calls on the usage count
-/

theorem UsageCount.eq_of_toNat {u v : UsageCount} (h : u.count.toNat = v.count.toNat) :
    u = v := by
  rcases u with ⟨count⟩
  rcases v with ⟨other⟩
  congr 1
  exact UInt32.toNat_inj.mp h

namespace Rig

theorem leads_usage {l : Lines} {v : Levels} (hordered : v.Ordered l)
    (call : UsageCall) (answer : Option Bool) (count : UInt32) :
    Levels.Leads l v [.usage call answer count] v :=
  (Levels.Leads.nil l v).cons (fun h => nomatch h) hordered

theorem run_get_cases (rig : Rig) :
    (exists kind, get.run rig = ⟨.error (.overflow kind), rig, []⟩) ∨
      exists usage : UsageCount,
        usage.count.toNat = rig.usage.count.toNat + 1 ∧
        get.run rig =
          ⟨.ok (decide (rig.usage.count.toNat = 0)), { rig with usage := usage },
            [.usage .get (some (decide (rig.usage.count.toNat = 0)))
              usage.count]⟩ := by
  cases hsum : Checked.add rig.usage.count 1 with
  | error kind =>
      left
      exists kind
      simp [get, moveUsage, UsageCount.get, hsum, bind, Except.bind]
  | ok count =>
      have hcount := Checked.add_eq_ok_iff.mp hsum
      have hfirst : (count == 1) = decide (rig.usage.count.toNat = 0) := by
        rw [Bool.eq_iff_iff, beq_iff_eq, decide_eq_true_iff, ← UInt32.toNat_inj]
        simp only [UInt32.reduceToNat] at hcount ⊢
        omega
      right
      refine ⟨⟨count⟩, hcount.symm, ?_⟩
      simp [get, moveUsage, UsageCount.get, hsum, bind, Except.bind, pure,
        Except.pure, hfirst]

/-- Only a count without room for another user overflows. -/
theorem get_answers {rig : Rig} (hroom : rig.usage.count.toNat + 1 < UInt32.size) :
    exists first, (get.run rig).result = .ok first := by
  rcases Checked.exists_add (a := rig.usage.count) (b := 1) hroom with ⟨count, hsum, -⟩
  exists count == 1
  simp [get, moveUsage, UsageCount.get, hsum, bind, Except.bind, pure, Except.pure]

theorem pred_of_toNat_eq_succ {count : UInt32} {n : Nat}
    (h : count.toNat = n + 1) : count ≠ 0 ∧ (count - 1).toNat = n := by
  have hne : count ≠ 0 := by
    intro hzero
    rw [hzero] at h
    cases h
  have hle : (1 : UInt32) ≤ count := by
    rw [UInt32.le_iff_toNat_le, h]
    simp
  refine ⟨hne, ?_⟩
  rw [UInt32.toNat_sub_of_le _ _ hle, h]
  rfl

theorem run_put {rig : Rig} {n : Nat} (h : rig.usage.count.toNat = n + 1) :
    exists usage : UsageCount,
      usage.count.toNat = n ∧
      put.run rig =
        ⟨.ok (decide (n = 0)), { rig with usage := usage },
          [.usage .put (some (decide (n = 0))) usage.count]⟩ := by
  rcases pred_of_toNat_eq_succ h with ⟨hne, hcount⟩
  have hlast : (rig.usage.count - 1 == 0) = decide (n = 0) := by
    rw [Bool.eq_iff_iff, beq_iff_eq, decide_eq_true_iff, ← UInt32.toNat_inj, hcount]
    rfl
  refine ⟨⟨rig.usage.count - 1⟩, hcount, ?_⟩
  simp [put, moveUsage, UsageCount.put, hne, pure, Except.pure, hlast]

theorem run_put_of_idle {rig : Rig} (h : rig.usage.count = 0) :
    put.run rig = ⟨.ok false, rig, [.usage .put (some false) rig.usage.count]⟩ := by
  simp [put, moveUsage, UsageCount.put, h, pure, Except.pure]

theorem run_putNoIdle {rig : Rig} {n : Nat}
    (h : rig.usage.count.toNat = n + 1) :
    exists usage : UsageCount,
      usage.count.toNat = n ∧
      putNoIdle.run rig =
        ⟨.ok (), { rig with usage := usage },
          [.usage .putNoIdle none usage.count]⟩ := by
  rcases pred_of_toNat_eq_succ h with ⟨hne, hcount⟩
  refine ⟨⟨rig.usage.count - 1⟩, hcount, ?_⟩
  simp [putNoIdle, UsageCount.putNoIdle, hne]

theorem run_getIfInUse_cases (rig : Rig) :
    (UInt32.size ≤ rig.usage.count.toNat + 1 ∧
      exists kind, getIfInUse.run rig = ⟨.error (.overflow kind), rig, []⟩) ∨
      (rig.usage.count.toNat = 0 ∧
        getIfInUse.run rig =
          ⟨.ok false, rig,
            [.usage .getIfInUse (some false) rig.usage.count]⟩) ∨
      exists usage : UsageCount,
        0 < rig.usage.count.toNat ∧
        usage.count.toNat = rig.usage.count.toNat + 1 ∧
        getIfInUse.run rig =
          ⟨.ok true, { rig with usage := usage },
            [.usage .getIfInUse (some true) usage.count]⟩ := by
  by_cases hzero : rig.usage.count = 0
  · right
    left
    constructor
    · rw [hzero]
      rfl
    · simp [getIfInUse, moveUsage, UsageCount.getIfInUse, hzero, pure, Except.pure]
  · cases hsum : Checked.add rig.usage.count 1 with
    | error kind =>
        left
        constructor
        · rw [← Nat.not_lt]
          intro hlt
          rcases Checked.exists_add (a := rig.usage.count) (b := 1) hlt with ⟨s, hs, -⟩
          rw [hsum] at hs
          cases hs
        · exists kind
          simp [getIfInUse, moveUsage, UsageCount.getIfInUse, hzero, hsum, bind,
            Except.bind]
    | ok count =>
        have hcount := Checked.add_eq_ok_iff.mp hsum
        have hpos : 0 < rig.usage.count.toNat := by
          rw [Nat.pos_iff_ne_zero]
          intro h
          exact hzero (UInt32.toNat_inj.mp h)
        right
        right
        refine ⟨⟨count⟩, hpos, hcount.symm, ?_⟩
        simp [getIfInUse, moveUsage, UsageCount.getIfInUse, hzero, hsum, bind,
          Except.bind, pure, Except.pure]

end Rig

namespace UsageCount

/-- A user is removed if there is one. -/
theorem toNat_count_sub_one {count : UInt32} (h : count ≠ 0) :
    (count - 1).toNat = count.toNat - 1 := by
  have hpos : 0 < count.toNat := by
    rw [Nat.pos_iff_ne_zero]
    intro hzero
    exact h (UInt32.toNat_inj.mp hzero)
  exact (Rig.pred_of_toNat_eq_succ (Nat.succ_pred_eq_of_pos hpos).symm).2

theorem toNat_put (u : UsageCount) : u.put.2.count.toNat = u.count.toNat - 1 := by
  unfold put
  split
  case isTrue h =>
      rw [h]
      rfl
  case isFalse h => exact toNat_count_sub_one h

theorem toNat_putNoIdle (u : UsageCount) : u.putNoIdle.count.toNat = u.count.toNat - 1 := by
  unfold putNoIdle
  split
  case isTrue h =>
      rw [h]
      rfl
  case isFalse h => exact toNat_count_sub_one h

end UsageCount

/-!
# Who the users are
-/

/-- Who keeps the device powered, and how far the boot stage was left behind. -/
structure Holders where
  host : Bool
  stream : Bool
  /-- The boot stage's set-up is in use. -/
  boot : Bool
  /-- A stream was stopped under it. -/
  stopped : Bool

namespace Holders

/-- The user that stands for the boot stage is still there. -/
def waiting (h : Holders) : Bool :=
  h.boot && !h.stopped

def users (h : Holders) : Nat :=
  h.host.toNat + h.stream.toNat + h.waiting.toNat

/-- The holders after a power-down. -/
def left (h : Holders) : Holders :=
  { h with boot := false, stopped := !h.boot && h.stopped }

/-- The holders after a user was removed and a number of them is left. -/
def released (h : Holders) (n : Nat) : Holders :=
  if n = 0 then h.left else h

theorem left_of_no_boot {h : Holders} (hboot : h.boot = false) : h.left = h := by
  rcases h with ⟨host, stream, boot, stopped⟩
  cases hboot
  rfl

theorem released_of_users {h : Holders} {n : Nat} (hn : 0 < n) :
    h.released n = h :=
  if_neg (Nat.ne_of_gt hn)

end Holders

def Session.holders (s : Session) : Holders :=
  ⟨s.hostPower, s.streaming, s.fastBoot, s.stoppedOnce⟩

/-!
# Watching the log

A stretch of the log is watched from some levels on.  The bus may be guarded,
which rules out a use of it without power; and the host may be known to keep
the device powered, which rules out every power-down.
-/

structure Watch where
  lines : Lines
  start : Levels
  guarded : Bool
  held : Bool

/-- The stretch ends at these levels, and was safe if the bus is guarded. -/
def Watch.Leads (w : Watch) (log : List Event) (v : Levels) : Prop :=
  w.start.afterAll log = v ∧ (w.guarded = true -> Levels.Safe w.lines w.start log)

theorem Watch.Leads.append {w : Watch} {log es : List Event} {u v : Levels}
    (hlog : w.Leads log u) (hes : Levels.Leads w.lines u es v) :
    w.Leads (log ++ es) v := by
  rcases hlog with ⟨rfl, hsafe⟩
  rcases hes with ⟨hnext, rfl⟩
  constructor
  · exact Levels.afterAll_append w.start log es
  · intro hguarded
    exact (Levels.safe_append log es).mpr ⟨hsafe hguarded, hnext⟩

namespace Device

/-- The levels that go with the device's own account of its power. -/
def levels (d : Device) : Levels :=
  if d.session.active then .on d.rig.lines else .off

theorem ordered_levels (d : Device) : d.levels.Ordered d.rig.lines := by
  unfold levels
  cases d.session.active with
  | false => exact Levels.ordered_off d.rig.lines
  | true => exact Levels.ordered_on d.rig.lines

/-- Powered exactly while there are users, of whom there is the given number. -/
structure Conducted (w : Watch) (n : Nat) (h : Holders) (log : List Event)
    (d : Device) : Prop where
  users : d.rig.usage.count.toNat = n
  active : d.session.active = decide (0 < n)
  programmed : d.session.programmed = true -> 0 < n
  holders : d.session.holders = h
  boot : h.boot = true -> 0 < n
  streamed : 0 < n -> h.stream = true -> h.boot = false ->
    d.session.programmed = true
  lines : d.rig.lines = w.lines
  leads : w.Leads log d.levels
  steady : w.held = true -> forall e, e ∈ log -> e.isPowerDown = false

/-- Without power, whatever the count. -/
structure Unpowered (w : Watch) (n : Nat) (h : Holders) (log : List Event)
    (d : Device) : Prop where
  users : d.rig.usage.count.toNat = n
  active : d.session.active = false
  programmed : d.session.programmed = false
  holders : d.session.holders = h
  boot : h.boot = false
  lines : d.rig.lines = w.lines
  leads : w.Leads log .off

/-- With power, whatever the count. -/
structure Powered (w : Watch) (n : Nat) (h : Holders) (log : List Event)
    (d : Device) : Prop where
  users : d.rig.usage.count.toNat = n
  active : d.session.active = true
  holders : d.session.holders = h
  lines : d.rig.lines = w.lines
  leads : w.Leads log (.on w.lines)

section

variable {w : Watch} {n : Nat} {h : Holders} {log : List Event} {d : Device}

theorem levels_of_active (hactive : d.session.active = true) :
    d.levels = .on d.rig.lines :=
  if_pos hactive

theorem levels_of_inactive (hactive : d.session.active = false) :
    d.levels = .off := by
  unfold levels
  rw [hactive]
  rfl

theorem Unpowered.conducted (hd : Unpowered w 0 h log d) (hheld : w.held = false) :
    Conducted w 0 h log d where
  users := hd.users
  active := hd.active
  programmed := by
    intro hprogrammed
    exact nomatch hd.programmed.symm.trans hprogrammed
  holders := hd.holders
  boot := by
    intro hboot
    exact nomatch hd.boot.symm.trans hboot
  streamed := fun hn => absurd hn (Nat.lt_irrefl 0)
  lines := hd.lines
  leads := by
    rw [levels_of_inactive hd.active]
    exact hd.leads
  steady := by
    intro hholds
    exact nomatch hheld.symm.trans hholds

theorem Powered.conducted (hd : Powered w (n + 1) h log d)
    (hstream : h.stream = false) (hheld : w.held = false) :
    Conducted w (n + 1) h log d where
  users := hd.users
  active := hd.active
  programmed := fun _ => Nat.succ_pos n
  holders := hd.holders
  boot := fun _ => Nat.succ_pos n
  streamed := by
    intro _ hstreaming
    exact nomatch hstream.symm.trans hstreaming
  lines := hd.lines
  leads := by
    rw [levels_of_active hd.active, hd.lines]
    exact hd.leads
  steady := by
    intro hholds
    exact nomatch hheld.symm.trans hholds

theorem Conducted.ordered (hd : Conducted w n h log d) :
    d.levels.Ordered w.lines := by
  rw [← hd.lines]
  exact ordered_levels d

theorem Conducted.levels_on (hd : Conducted w (n + 1) h log d) :
    d.levels = .on w.lines := by
  rw [levels_of_active hd.active, hd.lines]

theorem Conducted.leads_usage (hd : Conducted w n h log d) (call : UsageCall)
    (answer : Option Bool) (count : UInt32) :
    w.Leads (log ++ [.usage call answer count]) d.levels :=
  hd.leads.append (Rig.leads_usage hd.ordered call answer count)

theorem Conducted.steady_usage (hd : Conducted w n h log d) (call : UsageCall)
    (answer : Option Bool) (count : UInt32) :
    w.held = true ->
      forall e, e ∈ log ++ [.usage call answer count] -> e.isPowerDown = false := by
  intro hheld e he
  rcases List.mem_append.mp he with he | he
  · exact hd.steady hheld e he
  · rw [List.mem_singleton.mp he]
    rfl

end

/-!
# Power sequences
-/

section

variable {w : Watch} {n : Nat} {h : Holders}

theorem contract_powerOn :
    Action.Contract powerOn (Unpowered w n h) (fun _ => Powered w n h)
      (Action.reported (Unpowered w n h)) := by
  intro log d hd
  have hfast : d.session.fastBoot = false :=
    (congrArg Holders.boot hd.holders).trans hd.boot
  rcases powerOn_cases hfast with ⟨board, es, ⟨resource, hrun, hes⟩ | ⟨hrun, hes⟩⟩
  · rw [hrun]
    rw [hd.lines] at hes
    exact ⟨hd.users, hd.active, hd.programmed, hd.holders, hd.boot, hd.lines,
      hd.leads.append hes⟩
  · rw [hrun]
    rw [hd.lines] at hes
    exact ⟨hd.users, rfl, hd.holders, hd.lines, hd.leads.append hes⟩

theorem contract_powerOff (hboot : h.boot = true -> h.stopped = true) :
    Action.Contract powerOff (Powered w n h) (fun _ => Unpowered w n h.left)
      Action.never := by
  intro log d hd
  have hholders := hd.holders
  subst hholders
  rcases powerOff_cases hboot with ⟨es, hrun, hes⟩
  rw [hrun]
  rw [hd.lines] at hes
  exact ⟨hd.users, rfl, rfl, rfl, rfl, hd.lines, hd.leads.append hes⟩

theorem contract_putNoIdle :
    Action.Contract (onRig Rig.putNoIdle) (Unpowered w (n + 1) h)
      (fun _ => Unpowered w n h) Action.never := by
  intro log d hd
  rcases Rig.run_putNoIdle hd.users with ⟨usage, hcount, hput⟩
  rw [run_onRig, hput]
  have hmove := Rig.leads_usage (Levels.ordered_off w.lines) .putNoIdle none
    usage.count
  exact ⟨hcount, hd.active, hd.programmed, hd.holders, hd.boot, hd.lines,
    hd.leads.append hmove⟩

/-!
# Adding a user

Between the count and the power the device has its first user without power.
-/

theorem contract_get :
    Action.Contract (onRig Rig.get) (Conducted w n h)
      (fun first log d =>
        if first then n = 0 ∧ Unpowered w 1 h log d else Conducted w (n + 1) h log d)
      (fun _ => Conducted w n h) := by
  intro log d hd
  rw [run_onRig]
  rcases Rig.run_get_cases d.rig with ⟨kind, hget⟩ | ⟨usage, hcount, hget⟩
  · rw [hget]
    simpa using hd
  · rw [hd.users] at hcount hget
    rw [hget]
    have hleads := hd.leads_usage .get (some (decide (n = 0))) usage.count
    cases n with
    | zero =>
        refine ⟨rfl, hcount, hd.active, ?_, hd.holders, ?_, hd.lines, ?_⟩
        · rw [Bool.eq_false_iff]
          intro hprogrammed
          exact Nat.lt_irrefl 0 (hd.programmed hprogrammed)
        · rw [Bool.eq_false_iff]
          intro hboot
          exact Nat.lt_irrefl 0 (hd.boot hboot)
        · rw [levels_of_inactive hd.active] at hleads
          exact hleads
    | succ n =>
        exact ⟨hcount, hd.active, fun _ => Nat.succ_pos _, hd.holders,
          fun _ => Nat.succ_pos _, fun _ => hd.streamed (Nat.succ_pos n), hd.lines,
          hleads, hd.steady_usage _ _ _⟩

theorem contract_powerUp :
    Action.Contract (Action.onError powerOn (onRig Rig.putNoIdle))
      (Unpowered w 1 h) (fun _ => Powered w 1 h) (fun _ => Unpowered w 0 h) := by
  apply Action.Contract.onError contract_powerOn
  · intro _
    exact contract_putNoIdle.anyFailure
  · intro _ _ _ hfalse
    exact hfalse.elim

/-- Adding a user powers up for the first one, or fails and adds none. -/
theorem contract_acquire
    (hidle : n = 0 -> h.stream = false ∧ w.held = false) :
    Action.Contract acquire (Conducted w n h) (fun _ => Conducted w (n + 1) h)
      (fun _ => Conducted w n h) := by
  apply Action.Contract.bind contract_get
  intro first
  cases first with
  | true =>
      apply Action.Contract.assuming
      intro hzero
      subst hzero
      rcases hidle rfl with ⟨hstream, hheld⟩
      apply contract_powerUp.consequence
      · intro _ _ hd
        exact hd
      · intro _ _ _ hd
        exact hd.conducted hstream hheld
      · intro _ _ _ hd
        exact hd.conducted hheld
  | false => exact Action.Contract.pure fun _ _ hd => hd

theorem contract_getIfInUse :
    Action.Contract (onRig Rig.getIfInUse) (Conducted w n h)
      (fun inUse log d =>
        if inUse then 0 < n ∧ Conducted w (n + 1) h log d else Conducted w n h log d)
      (fun _ => Conducted w n h) := by
  intro log d hd
  rw [run_onRig]
  rcases Rig.run_getIfInUse_cases d.rig with
    ⟨-, kind, hget⟩ | ⟨-, hget⟩ | ⟨usage, hpos, hcount, hget⟩
  · rw [hget]
    simpa using hd
  · rw [hget]
    exact ⟨hd.users, hd.active, hd.programmed, hd.holders, hd.boot, hd.streamed,
      hd.lines, hd.leads_usage _ _ _, hd.steady_usage _ _ _⟩
  · rw [hd.users] at hpos hcount
    rw [hget]
    have hactive : d.session.active = decide (0 < n + 1) := by
      rw [hd.active]
      simp [hpos]
    exact ⟨hpos, hcount, hactive, fun _ => Nat.succ_pos n, hd.holders,
      fun _ => Nat.succ_pos n, fun _ => hd.streamed hpos, hd.lines,
      hd.leads_usage _ _ _, hd.steady_usage _ _ _⟩

/-!
# Removing a user

Between the count and the power the device has power without a user.
-/

theorem contract_put :
    Action.Contract (onRig Rig.put) (Conducted w (n + 1) h)
      (fun last log d =>
        if last then n = 0 ∧ Powered w 0 h log d else 0 < n ∧ Conducted w n h log d)
      Action.never := by
  intro log d hd
  rcases Rig.run_put hd.users with ⟨usage, hcount, hput⟩
  rw [run_onRig, hput]
  have hleads := hd.leads_usage .put (some (decide (n = 0))) usage.count
  cases n with
  | zero =>
      refine ⟨rfl, hcount, hd.active, hd.holders, hd.lines, ?_⟩
      rw [hd.levels_on] at hleads
      exact hleads
  | succ n =>
      exact ⟨Nat.succ_pos n, hcount, hd.active, fun _ => Nat.succ_pos n, hd.holders,
        fun _ => Nat.succ_pos n, fun _ => hd.streamed (Nat.succ_pos _), hd.lines,
        hleads, hd.steady_usage _ _ _⟩

/--
Removing a user powers down after the last one.  Only after a stream was
stopped may this give up the boot stage's set-up.
-/
theorem contract_release
    (hboot : n = 0 -> h.boot = true -> h.stopped = true)
    (hheld : n = 0 -> w.held = false) :
    Action.Contract release (Conducted w (n + 1) h)
      (fun _ => Conducted w n (h.released n)) Action.never := by
  apply Action.Contract.bind contract_put
  intro last
  cases last with
  | true =>
      apply Action.Contract.assuming
      intro hzero
      subst hzero
      apply (contract_powerOff (hboot rfl)).consequence
      · intro _ _ hd
        exact hd
      · intro _ _ _ hd
        exact hd.conducted (hheld rfl)
      · intro _ _ _ hfalse
        exact hfalse
  | false =>
      apply Action.Contract.pure
      intro log d hd
      rw [Holders.released_of_users hd.1]
      exact hd.2

end

end Device
end ImageSensor
