import ImageSensor.Proofs.Users

/-!
# Edges of the usage count

A call that adds or removes a user tells its caller when it took the count off
zero or back to it, and at no other time.  Over any sequence of calls these edges
alternate, and a host that powers up on the one and down on the other is powered
exactly while there are users.
-/

namespace ImageSensor

/-- A call on the usage count, its answer, and the counts around it. -/
structure ServedCall where
  before : UsageCount
  call : UsageCall
  answer : Option Bool
  after : UsageCount

namespace UsageCount

def inUse (u : UsageCount) : Bool :=
  u.count != 0

/-- Serves calls in order, from some count on. -/
def serve (u : UsageCount) : List UsageCall -> Checked (List ServedCall × UsageCount)
  | [] => pure ([], u)
  | call :: rest => do
      let (answer, next) <- u.perform call
      let (history, last) <- next.serve rest
      pure (⟨u, call, answer, next⟩ :: history, last)

/-- The number of users after a call, if numbers had no limit. -/
def tally (n : Nat) : UsageCall -> Nat
  | .get => n + 1
  | .getIfInUse => if n = 0 then 0 else n + 1
  | .put => n - 1
  | .putNoIdle => n - 1

end UsageCount

namespace ServedCall

/-- What the caller is told to do: power up on `true`, power down on `false`. -/
def edge (s : ServedCall) : Option Bool :=
  match s.call, s.answer with
  | .get, some true => some true
  | .put, some true => some false
  | _, _ => none

/-- A host that does what it is told. -/
def switch (powered : Bool) (s : ServedCall) : Bool :=
  s.edge.getD powered

/-- How a single call is served. -/
structure Regular (s : ServedCall) : Prop where
  /-- The caller is told exactly when the count crosses between none and one. -/
  edge : s.edge = if s.before.inUse = s.after.inUse then none else some s.after.inUse
  conditional : s.call = .getIfInUse -> s.answer = some s.before.inUse ∧
    (s.before.inUse = false -> s.after = s.before)
  surplus : s.call = .put -> s.before.inUse = false ->
    s.answer = some false ∧ s.after = s.before

theorem Regular.balance {s : ServedCall} (h : s.Regular) :
    (if s.edge = some true then 1 else 0) + s.before.inUse.toNat =
      (if s.edge = some false then 1 else 0) + s.after.inUse.toNat := by
  rw [h.edge]
  cases s.before.inUse <;> cases s.after.inUse <;> rfl

end ServedCall

namespace UsageCount

variable {u v : UsageCount} {call : UsageCall} {calls : List UsageCall}

/-!
# Single calls
-/

theorem count_eq_zero_of_idle (h : u.inUse = false) : u.count = 0 :=
  bne_eq_false_iff_eq.mp h

theorem count_ne_zero_of_inUse (h : u.inUse = true) : u.count ≠ 0 :=
  bne_iff_ne.mp h

theorem inUse_eq_false_iff : u.inUse = false <-> u.count.toNat = 0 := by
  rw [inUse, bne_eq_false_iff_eq, ← UInt32.toNat_inj]
  rfl

theorem inUse_of_toNat_eq_succ {n : Nat} (h : u.count.toNat = n + 1) : u.inUse = true := by
  rw [← Bool.not_eq_false, inUse_eq_false_iff, h]
  exact Nat.succ_ne_zero n

theorem perform_get (hroom : u.count.toNat + 1 < UInt32.size) :
    exists v : UsageCount,
      u.perform .get = .ok (some (!u.inUse), v) ∧ v.count.toNat = u.count.toNat + 1 := by
  rcases Checked.exists_add (b := 1) hroom with ⟨count, hsum, hcount⟩
  have hfirst : (count == 1) = !u.inUse := by
    rw [Bool.eq_iff_iff, beq_iff_eq, Bool.not_eq_true', inUse_eq_false_iff,
      ← UInt32.toNat_inj, hcount]
    simp
  refine ⟨⟨count⟩, ?_, hcount⟩
  simp [perform, get, hsum, bind, Except.bind, pure, Except.pure, hfirst]

theorem perform_getIfInUse (h : u.inUse = true) (hroom : u.count.toNat + 1 < UInt32.size) :
    exists v : UsageCount,
      u.perform .getIfInUse = .ok (some true, v) ∧ v.count.toNat = u.count.toNat + 1 := by
  rcases Checked.exists_add (b := 1) hroom with ⟨count, hsum, hcount⟩
  refine ⟨⟨count⟩, ?_, hcount⟩
  simp [perform, getIfInUse, count_ne_zero_of_inUse h, hsum, bind, Except.bind, pure, Except.pure]

theorem perform_getIfInUse_of_idle (h : u.inUse = false) :
    u.perform .getIfInUse = .ok (some false, u) := by
  simp [perform, getIfInUse, count_eq_zero_of_idle h, bind, Except.bind, pure, Except.pure]

theorem perform_put (h : u.inUse = true) :
    exists v : UsageCount,
      u.perform .put = .ok (some (!v.inUse), v) ∧ v.count.toNat = u.count.toNat - 1 := by
  have hne := count_ne_zero_of_inUse h
  refine ⟨⟨u.count - 1⟩, ?_, toNat_count_sub_one hne⟩
  simp [perform, put, hne, inUse, bne, pure, Except.pure]

theorem perform_put_of_idle (h : u.inUse = false) :
    u.perform .put = .ok (some false, u) := by
  simp [perform, put, count_eq_zero_of_idle h, pure, Except.pure]

/-- As long as there is room, a call is served regularly and counts as it should. -/
theorem exists_perform (hcall : call ≠ .putNoIdle)
    (hroom : tally u.count.toNat call < UInt32.size) :
    exists answer v,
      u.perform call = .ok (answer, v) ∧ v.count.toNat = tally u.count.toNat call ∧
        (ServedCall.mk u call answer v).Regular := by
  cases call with
  | get =>
      rcases perform_get hroom with ⟨v, hperform, hcount⟩
      refine ⟨_, v, hperform, hcount, ?edge, nofun, nofun⟩
      have hused := inUse_of_toNat_eq_succ hcount
      cases u.inUse <;> simp [ServedCall.edge, hused]
  | getIfInUse =>
      cases h : u.inUse with
      | false =>
          have hnone := inUse_eq_false_iff.mp h
          refine ⟨_, u, perform_getIfInUse_of_idle h, ?_, ?_, fun _ => ⟨?_, fun _ => rfl⟩, nofun⟩
          · simp [tally, hnone]
          · simp [ServedCall.edge]
          · rw [h]
      | true =>
          have hsome : u.count.toNat ≠ 0 := by
            rw [ne_eq, ← inUse_eq_false_iff, h]
            exact Bool.noConfusion
          have htally : tally u.count.toNat .getIfInUse = u.count.toNat + 1 := if_neg hsome
          rw [htally] at hroom ⊢
          rcases perform_getIfInUse h hroom with ⟨v, hperform, hcount⟩
          have hused := inUse_of_toNat_eq_succ hcount
          refine ⟨_, v, hperform, hcount, ?_, fun _ => ⟨?_, ?_⟩, nofun⟩
          · simp [ServedCall.edge, h, hused]
          · rw [h]
          · intro hidle
            exact nomatch h.symm.trans hidle
  | put =>
      cases h : u.inUse with
      | false =>
          have hnone := inUse_eq_false_iff.mp h
          refine ⟨_, u, perform_put_of_idle h, ?_, ?_, nofun, fun _ _ => ⟨rfl, rfl⟩⟩
          · simp [tally, hnone]
          · simp [ServedCall.edge]
      | true =>
          rcases perform_put h with ⟨v, hperform, hcount⟩
          refine ⟨_, v, hperform, hcount, ?_, nofun, fun _ hidle => nomatch h.symm.trans hidle⟩
          cases v.inUse <;> simp [ServedCall.edge, h]
  | putNoIdle => exact (hcall rfl).elim

end UsageCount

/-!
# Sequences of calls
-/

/-- What the callers are told while calls are served one after the other. -/
structure Edged (start : UsageCount) (history : List ServedCall) (last : UsageCount) : Prop where
  alternate : Alternates (!start.inUse) (history.filterMap ServedCall.edge)
  balance : history.countP (fun s => s.edge = some true) + start.inUse.toNat =
    history.countP (fun s => s.edge = some false) + last.inUse.toNat
  powered : history.foldl ServedCall.switch start.inUse = last.inUse
  regular : forall s, s ∈ history -> s.Regular

theorem Edged.nil (u : UsageCount) : Edged u [] u :=
  ⟨trivial, rfl, rfl, nofun⟩

theorem Edged.cons {s : ServedCall} {history : List ServedCall} {last : UsageCount}
    (hs : s.Regular) (h : Edged s.after history last) : Edged s.before (s :: history) last := by
  have hregular : forall r, r ∈ s :: history -> r.Regular := by
    intro r hr
    rcases List.mem_cons.mp hr with rfl | hr
    · exact hs
    · exact h.regular r hr
  have hbalance : (s :: history).countP (fun s => s.edge = some true) + s.before.inUse.toNat =
      (s :: history).countP (fun s => s.edge = some false) + last.inUse.toNat := by
    have hstep := hs.balance
    have hrest := h.balance
    simp only [List.countP_cons, decide_eq_true_eq]
    omega
  have hedge := hs.edge
  by_cases hsame : s.before.inUse = s.after.inUse
  · -- nobody is told
    rw [if_pos hsame] at hedge
    refine ⟨?_, hbalance, ?_, hregular⟩
    · rw [List.filterMap_cons_none hedge, hsame]
      exact h.alternate
    · rw [List.foldl_cons, ServedCall.switch, hedge, hsame]
      exact h.powered
  · rw [if_neg hsame] at hedge
    have hcrossed : s.after.inUse = !s.before.inUse := by
      rw [Bool.eq_not]
      exact fun heq => hsame heq.symm
    refine ⟨?_, hbalance, ?_, hregular⟩
    · rw [List.filterMap_cons_some hedge]
      refine ⟨hcrossed, ?_⟩
      rw [← hcrossed]
      exact h.alternate
    · rw [List.foldl_cons, ServedCall.switch, hedge]
      exact h.powered

namespace UsageCount

variable {u : UsageCount} {calls : List UsageCall}

theorem serve_cons {call : UsageCall} {answer : Option Bool} {v last : UsageCount}
    {history : List ServedCall} (hperform : u.perform call = .ok (answer, v))
    (hserve : v.serve calls = .ok (history, last)) :
    u.serve (call :: calls) = .ok (⟨u, call, answer, v⟩ :: history, last) := by
  simp [serve, hperform, hserve, bind, Except.bind, pure, Except.pure]

theorem exists_serve (hloud : .putNoIdle ∉ calls)
    (hroom : forall prior, prior <+: calls ->
      prior.foldl tally u.count.toNat < UInt32.size) :
    exists history last,
      u.serve calls = .ok (history, last) ∧
      last.count.toNat = calls.foldl tally u.count.toNat ∧ Edged u history last := by
  induction calls generalizing u with
  | nil => exact ⟨[], u, rfl, rfl, Edged.nil u⟩
  | cons call rest ih =>
      rcases not_or.mp fun h => hloud (List.mem_cons.mpr h) with ⟨hcall, hrest⟩
      have hfirst := hroom [call] (List.prefix_append [call] rest)
      rcases exists_perform (Ne.symm hcall) hfirst with ⟨answer, v, hperform, hcount, hregular⟩
      have hlater : forall prior, prior <+: rest ->
          prior.foldl tally v.count.toNat < UInt32.size := by
        intro prior hprior
        rw [hcount]
        exact hroom (call :: prior) ((List.prefix_cons_inj call).mpr hprior)
      rcases ih hrest hlater with ⟨history, last, hserve, hlast, hedged⟩
      refine ⟨_, last, serve_cons hperform hserve, ?_, Edged.cons hregular hedged⟩
      rw [hlast, hcount]
      rfl

/--
While the count of a fresh one stays a word, every call is served, and after every
call the edges so far alternate and say whether there are users.
-/
theorem edged_of_calls (hloud : .putNoIdle ∉ calls)
    (hroom : forall prior, prior <+: calls -> prior.foldl tally 0 < UInt32.size) :
    forall prior, prior <+: calls ->
      exists history last,
        zero.serve prior = .ok (history, last) ∧
        last.count.toNat = prior.foldl tally 0 ∧
        Edged zero history last := by
  intro prior hprior
  apply exists_serve
  · exact fun hmem => hloud (hprior.mem hmem)
  · exact fun earlier hearlier => hroom earlier (hearlier.trans hprior)

/-- A call adds one user at most. -/
theorem foldl_tally_le (calls : List UsageCall) (n : Nat) :
    calls.foldl tally n ≤ n + calls.length := by
  induction calls generalizing n with
  | nil => exact Nat.le_refl n
  | cons call rest ih =>
      have hcall : tally n call ≤ n + 1 := by
        cases call with
        | getIfInUse =>
            simp only [tally]
            split <;> omega
        | _ =>
            simp only [tally]
            omega
      have hrest := ih (tally n call)
      rw [List.foldl_cons, List.length_cons]
      omega

/-- Surplus calls before the first user and after the last tell nobody anything. -/
theorem edged_with_surplus_calls :
    exists history last,
      zero.serve
          [.put, .getIfInUse, .get, .getIfInUse, .get, .put, .put, .put, .put, .get] =
        .ok (history, last) ∧
      history.map ServedCall.answer =
        [some false, some false, some true, some true, some false, some false, some false,
          some true, some false, some true] ∧
      history.filterMap ServedCall.edge = [true, false, true] ∧
      last.count = 1 ∧ Edged zero history last := by
  have hedged := @edged_of_calls
    [.put, .getIfInUse, .get, .getIfInUse, .get, .put, .put, .put, .put, .get] (by decide)
    (fun prior hprior => Nat.lt_of_le_of_lt (foldl_tally_le prior 0)
      (Nat.lt_of_le_of_lt (Nat.add_le_add_left hprior.length_le 0) (by decide)))
    _ (List.prefix_refl _)
  rcases hedged with ⟨history, last, hserve, -, hedged⟩
  have hhistory := hserve
  cases hserve
  exact ⟨_, _, hhistory, rfl, rfl, rfl, hedged⟩

end UsageCount
end ImageSensor
