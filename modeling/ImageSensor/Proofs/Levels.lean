import ImageSensor.Power.Lines

/-!
# Electrical levels

The log tells which levels were last commanded: whether the clock runs, whether
the supplies are up, and how the two lines stand.  A log is safe when no event
of it contradicts the levels before it.  The main statement spells out what
that means: clock and supplies are switched on and off in turn, a line is high
only over the supplies it needs, and the bus is used only under full power.
-/

namespace ImageSensor

namespace Event

/-- An event of the bus, or a pause between two of them. -/
def isBusActivity : Event -> Bool
  | .pauseMilliseconds _ => true
  | e => e.isTransaction

/-- Clock or supplies are switched off. -/
def isPowerDown : Event -> Bool
  | .clockOff => true
  | .suppliesOff => true
  | _ => false

/-- Switching the clock, where it succeeds. -/
def clockEdge : Event -> Option Bool
  | .clockOn true => some true
  | .clockOff => some false
  | _ => none

/-- Switching the supplies, where it succeeds. -/
def supplyEdge : Event -> Option Bool
  | .suppliesOn true => some true
  | .suppliesOff => some false
  | _ => none

end Event

theorem Event.isPowerDown_of_busActivity {e : Event}
    (h : e.isBusActivity = true) : e.isPowerDown = false := by
  cases e <;> simp_all [Event.isBusActivity, Event.isPowerDown, Event.isTransaction]

/-- Every element differs from the one before, beginning with the given one. -/
def Alternates (first : Bool) : List Bool -> Prop
  | [] => True
  | b :: rest => b = first ∧ Alternates (!first) rest

/-- The levels last commanded. -/
structure Levels where
  clock : Bool
  supplies : Bool
  reset : Bool
  powerDown : Bool
deriving DecidableEq

namespace Levels

def off : Levels :=
  ⟨false, false, false, false⟩

/-- Full power, with the wired lines high. -/
def on (l : Lines) : Levels :=
  ⟨true, true, l.hasReset, l.hasPowerDown⟩

/-- A command that was refused changes no level; a line has none to refuse. -/
def after (v : Levels) : Event -> Levels
  | .clockOn true => { v with clock := true }
  | .clockOff => { v with clock := false }
  | .suppliesOn true => { v with supplies := true }
  | .suppliesOff => { v with supplies := false }
  | .line .reset high _ => { v with reset := high }
  | .line .powerDown high _ => { v with powerDown := high }
  | _ => v

def afterAll (v : Levels) (log : List Event) : Levels :=
  log.foldl after v

/-- The levels of a log that begins with everything off. -/
def ofLog (log : List Event) : Levels :=
  off.afterAll log

/-- Clock and supplies are on, and the wired lines are high. -/
def Full (l : Lines) (v : Levels) : Prop :=
  v.clock = true ∧ v.supplies = true ∧
    (l.hasReset = true -> v.reset = true) ∧
    (l.hasPowerDown = true -> v.powerDown = true)

/-- No line is high without what has to come before it. -/
def Ordered (l : Lines) (v : Levels) : Prop :=
  (v.reset = true -> v.supplies = true) ∧
    (v.powerDown = true ->
      v.supplies = true ∧ (l.hasReset = true -> v.reset = true))

/-- What an event needs of the levels before it. -/
def Admits (l : Lines) (v : Levels) : Event -> Prop
  | .clockOn ok => ok = true -> v.clock = false
  | .clockOff => v.clock = true
  | .suppliesOn ok => ok = true -> v.supplies = false
  | .suppliesOff => v.supplies = true
  | e => e.isTransaction = true -> v.Full l

def Safe (l : Lines) (v : Levels) : List Event -> Prop
  | [] => True
  | e :: rest => v.Admits l e ∧ (v.after e).Ordered l ∧ Safe l (v.after e) rest

end Levels

/-!
# Logs in sequence
-/

namespace Levels

variable {l : Lines} {v : Levels}

@[simp]
theorem afterAll_nil (v : Levels) : v.afterAll [] = v := rfl

@[simp]
theorem afterAll_cons (v : Levels) (e : Event) (es : List Event) :
    v.afterAll (e :: es) = (v.after e).afterAll es := rfl

theorem afterAll_append (v : Levels) (es fs : List Event) :
    v.afterAll (es ++ fs) = (v.afterAll es).afterAll fs :=
  List.foldl_append

theorem safe_append (es fs : List Event) :
    Safe l v (es ++ fs) <-> Safe l v es ∧ Safe l (v.afterAll es) fs := by
  induction es generalizing v with
  | nil => simp [Safe]
  | cons e es ih => simp [Safe, ih, and_assoc]

theorem full_on (l : Lines) : (on l).Full l :=
  ⟨rfl, rfl, fun h => h, fun h => h⟩

theorem ordered_off (l : Lines) : off.Ordered l := by
  constructor
  · intro h
    cases h
  · intro h
    cases h

theorem ordered_on (l : Lines) : (on l).Ordered l :=
  ⟨fun _ => rfl, fun _ => ⟨rfl, fun h => h⟩⟩

/-!
# Events that move no level

Transactions, pauses and calls on the usage count leave all levels as they
are.  Only transactions need any.
-/

theorem after_of_busActivity {e : Event} (h : e.isBusActivity = true) :
    v.after e = v := by
  cases e <;> simp_all [after, Event.isBusActivity, Event.isTransaction]

theorem admits_of_busActivity {e : Event} (hfull : v.Full l)
    (h : e.isBusActivity = true) : v.Admits l e := by
  cases e <;> simp_all [Admits, Event.isBusActivity, Event.isTransaction]

theorem afterAll_of_busActivity {es : List Event}
    (h : forall e, e ∈ es -> e.isBusActivity = true) : v.afterAll es = v := by
  induction es with
  | nil => rfl
  | cons e es ih =>
      have hhead := h e List.mem_cons_self
      have htail := ih fun f hf => h f (List.mem_cons_of_mem e hf)
      rw [afterAll_cons, after_of_busActivity hhead, htail]

theorem safe_of_busActivity {es : List Event} (hfull : v.Full l)
    (hordered : v.Ordered l)
    (h : forall e, e ∈ es -> e.isBusActivity = true) : Safe l v es := by
  induction es with
  | nil => trivial
  | cons e es ih =>
      have hhead := h e List.mem_cons_self
      have htail := ih fun f hf => h f (List.mem_cons_of_mem e hf)
      have hsame : v.after e = v := after_of_busActivity hhead
      refine ⟨admits_of_busActivity hfull hhead, ?_, ?_⟩
      · rw [hsame]
        exact hordered
      · rw [hsame]
        exact htail

/-!
# From levels to levels
-/

/-- The events are safe from the first levels on, and end at the second. -/
def Leads (l : Lines) (v : Levels) (es : List Event) (w : Levels) : Prop :=
  Safe l v es ∧ v.afterAll es = w

theorem Leads.nil (l : Lines) (v : Levels) : Leads l v [] v :=
  ⟨trivial, rfl⟩

theorem Leads.append {w u : Levels} {es fs : List Event}
    (hes : Leads l v es w) (hfs : Leads l w fs u) :
    Leads l v (es ++ fs) u := by
  rcases hes with ⟨hsafe, rfl⟩
  rcases hfs with ⟨hrest, rfl⟩
  exact ⟨(safe_append es fs).mpr ⟨hsafe, hrest⟩, afterAll_append v es fs⟩

theorem Leads.cons {w : Levels} {e : Event} {es : List Event}
    (hadmits : v.Admits l e) (hordered : (v.after e).Ordered l)
    (hes : Leads l (v.after e) es w) : Leads l v (e :: es) w := by
  rcases hes with ⟨hsafe, hend⟩
  exact ⟨⟨hadmits, hordered, hsafe⟩, hend⟩

theorem Leads.of_busActivity {es : List Event} (hfull : v.Full l)
    (hordered : v.Ordered l)
    (h : forall e, e ∈ es -> e.isBusActivity = true) : Leads l v es v :=
  ⟨safe_of_busActivity hfull hordered h, afterAll_of_busActivity h⟩

/-!
# Reading a safe log

The edges of clock and supplies, and the events before any point of the log.
-/

theorem Safe.mono {es log : List Event} (h : Safe l v log)
    (hes : es <+: log) : Safe l v es := by
  rcases hes with ⟨rest, rfl⟩
  exact ((safe_append es rest).mp h).1

theorem Safe.ordered_afterAll {log : List Event} (h : Safe l v log)
    (hordered : v.Ordered l) : (v.afterAll log).Ordered l := by
  induction log generalizing v with
  | nil => exact hordered
  | cons e log ih =>
      rcases h with ⟨-, hnext, hrest⟩
      exact ih hrest hnext

theorem Safe.admits_last {es : List Event} {e : Event}
    (h : Safe l v (es ++ [e])) : (v.afterAll es).Admits l e :=
  ((safe_append es [e]).mp h).2.1

theorem Safe.clock_alternates {log : List Event} (h : Safe l v log) :
    Alternates (!v.clock) (log.filterMap Event.clockEdge) := by
  induction log generalizing v with
  | nil => trivial
  | cons e log ih =>
      rcases h with ⟨hadmits, -, hrest⟩
      have htail := ih hrest
      cases e with
      | clockOn ok =>
          cases ok with
          | false => exact htail
          | true =>
              have hclock : v.clock = false := hadmits rfl
              rw [hclock]
              exact ⟨rfl, htail⟩
      | clockOff =>
          have hclock : v.clock = true := hadmits
          rw [hclock]
          exact ⟨rfl, htail⟩
      | suppliesOn ok => cases ok <;> exact htail
      | line wire high ok => cases wire <;> exact htail
      | _ => exact htail

theorem Safe.supplies_alternate {log : List Event} (h : Safe l v log) :
    Alternates (!v.supplies) (log.filterMap Event.supplyEdge) := by
  induction log generalizing v with
  | nil => trivial
  | cons e log ih =>
      rcases h with ⟨hadmits, -, hrest⟩
      have htail := ih hrest
      cases e with
      | suppliesOn ok =>
          cases ok with
          | false => exact htail
          | true =>
              have hsupplies : v.supplies = false := hadmits rfl
              rw [hsupplies]
              exact ⟨rfl, htail⟩
      | suppliesOff =>
          have hsupplies : v.supplies = true := hadmits
          rw [hsupplies]
          exact ⟨rfl, htail⟩
      | clockOn ok => cases ok <;> exact htail
      | line wire high ok => cases wire <;> exact htail
      | _ => exact htail

/-- A level that only one event takes away is there until that event. -/
theorem on_afterAll {level : Levels -> Bool} {loss : Event}
    (hkeep : forall v e, level v = true -> e ≠ loss -> level (v.after e) = true)
    {es : List Event} (hon : level v = true) (hes : loss ∉ es) :
    level (v.afterAll es) = true := by
  induction es generalizing v with
  | nil => exact hon
  | cons e es ih =>
      rcases not_or.mp fun h => hes (List.mem_cons.mpr h) with ⟨he, hrest⟩
      exact ih (hkeep v e hon (Ne.symm he)) hrest

/-- A level that is not there in the end was taken away after it was given. -/
theorem loss_mem (level : Levels -> Bool) {gain loss : Event}
    (hgain : forall v : Levels, level (v.after gain) = true)
    (hkeep : forall v e, level v = true -> e ≠ loss -> level (v.after e) = true)
    {es fs : List Event} (hoff : level (v.afterAll (es ++ gain :: fs)) = false) :
    loss ∈ fs := by
  apply Decidable.byContradiction
  intro hnever
  rw [afterAll_append, afterAll_cons, on_afterAll hkeep (hgain _) hnever] at hoff
  cases hoff

theorem clockOff_mem {es fs : List Event}
    (hoff : (v.afterAll (es ++ .clockOn true :: fs)).clock = false) : .clockOff ∈ fs := by
  refine loss_mem Levels.clock (fun _ => rfl) ?_ hoff
  intro v e hon he
  cases e with
  | clockOff => exact (he rfl).elim
  | clockOn ok => cases ok <;> simp [after, hon]
  | suppliesOn ok => cases ok <;> exact hon
  | line wire high ok => cases wire <;> exact hon
  | _ => exact hon

theorem suppliesOff_mem {es fs : List Event}
    (hoff : (v.afterAll (es ++ .suppliesOn true :: fs)).supplies = false) :
    .suppliesOff ∈ fs := by
  refine loss_mem Levels.supplies (fun _ => rfl) ?_ hoff
  intro v e hon he
  cases e with
  | suppliesOff => exact (he rfl).elim
  | suppliesOn ok => cases ok <;> simp [after, hon]
  | clockOn ok => cases ok <;> exact hon
  | line wire high ok => cases wire <;> exact hon
  | _ => exact hon

theorem Safe.full_of_transaction {es : List Event} {e : Event}
    (h : Safe l v (es ++ [e])) (he : e.isTransaction = true) :
    (v.afterAll es).Full l := by
  have hadmits := h.admits_last
  cases e with
  | write device register bytes ok => exact hadmits rfl
  | read device register bytes => exact hadmits rfl
  | readFailure device register width => exact hadmits rfl
  | _ => cases he

end Levels

/-- What a safe log means for the sensor. -/
structure PowerSafe (l : Lines) (log : List Event) : Prop where
  clock_alternates : Alternates true (log.filterMap Event.clockEdge)
  supplies_alternate : Alternates true (log.filterMap Event.supplyEdge)
  /-- The reset line is high only while the supplies are on. -/
  reset_over_supplies : forall es, es <+: log ->
    (Levels.ofLog es).reset = true -> (Levels.ofLog es).supplies = true
  /-- The power-down line is high only over the supplies and a released reset. -/
  powerDown_over_reset : forall es, es <+: log ->
    (Levels.ofLog es).powerDown = true ->
      (Levels.ofLog es).supplies = true ∧
        (l.hasReset = true -> (Levels.ofLog es).reset = true)
  /-- The bus is used, with or without success, only under full power. -/
  transaction_under_power : forall es e, es ++ [e] <+: log ->
    e.isTransaction = true -> (Levels.ofLog es).Full l

theorem Levels.Safe.powerSafe {l : Lines} {log : List Event}
    (h : Levels.Safe l Levels.off log) : PowerSafe l log where
  clock_alternates := h.clock_alternates
  supplies_alternate := h.supplies_alternate
  reset_over_supplies := by
    intro es hes
    have hordered := (h.mono hes).ordered_afterAll (Levels.ordered_off l)
    exact hordered.1
  powerDown_over_reset := by
    intro es hes
    have hordered := (h.mono hes).ordered_afterAll (Levels.ordered_off l)
    exact hordered.2
  transaction_under_power := by
    intro es e hes he
    exact (h.mono hes).full_of_transaction he

end ImageSensor
