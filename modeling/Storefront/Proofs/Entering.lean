import Storefront.Proofs.Binding
import Storefront.Proofs.Story

/-!
# Entries reject or start

A lookup or a purchase is handed an argument. `Reads` says what native code makes of it and
`Judges` what the contract does; between them they leave no argument undecided. An entry that
rejects its argument leaves all but the machine's own counts as it was, and an exception for the
app; one that accepts it starts one call, and throws nothing.
-/

namespace Storefront.Host

/-- What is read of an argument while an exception is pending, or none. -/
inductive Reads (machine : Machine) : Option Raised → Argument → Except Trouble String → Prop where
  /-- Nothing can be read then. -/
  | pending (raised : Raised) (argument : Argument) :
      Reads machine (some raised) argument (.error (.pending raised))
  | null : Reads machine none .null (.error (.nullPointer "get_object_class"))
  | foreign : Reads machine none .foreign (.error .errorCode)
  | refused {units trouble} (struck : (machine.perform .readText).trouble = some trouble) :
      Reads machine none (.text units) (.error trouble)
  | text {units} (fine : (machine.perform .readText).trouble = none) :
      Reads machine none (.text units) (.ok units.decode)

/-- An argument is read in one way. -/
theorem Reads.unique {machine : Machine} {pending : Option Raised} {argument : Argument}
    {one other : Except Trouble String} (first : Reads machine pending argument one)
    (second : Reads machine pending argument other) : one = other := by
  cases first <;> cases second <;> simp_all

/-- A text is read while no exception is pending only. -/
theorem Reads.free {machine : Machine} {pending : Option Raised} {argument : Argument}
    {text : String} (reads : Reads machine pending argument (.ok text)) : pending = none := by
  cases reads
  rfl

/-- What the contract of an entry makes of what was read. -/
inductive Judges : Purpose → Except Trouble String →
    Except Catalog.Violation Catalog.Canonical → Prop where
  | unreadable (purpose : Purpose) (trouble : Trouble) :
      Judges purpose (.error trouble) (.error (.unreadable trouble.message))
  | broken {purpose text violation} (decodes : Catalog.Canonical.decode text = .error violation) :
      Judges purpose (.ok text) (.error violation)
  | lookup {text catalog} (decodes : Catalog.Canonical.decode text = .ok catalog) :
      Judges .lookup (.ok text) (.ok catalog)
  | purchase {text catalog} (decodes : Catalog.Canonical.decode text = .ok catalog)
      (single : catalog.size = 1) : Judges .purchase (.ok text) (.ok catalog)
  | crowded {text catalog} (decodes : Catalog.Canonical.decode text = .ok catalog)
      (many : catalog.size ≠ 1) :
      Judges .purchase (.ok text) (.error (.purchaseCatalogSize catalog.size))

/-- Whatever was read is judged. -/
theorem judges_total (purpose : Purpose) (reading : Except Trouble String) :
    ∃ verdict, Judges purpose reading verdict := by
  cases reading with
  | error trouble => exact ⟨_, .unreadable purpose trouble⟩
  | ok text =>
      cases decodes : Catalog.Canonical.decode text with
      | error violation => exact ⟨_, .broken decodes⟩
      | ok catalog =>
          cases purpose with
          | lookup => exact ⟨_, .lookup decodes⟩
          | purchase =>
              by_cases single : catalog.size = 1
              · exact ⟨_, .purchase decodes single⟩
              · exact ⟨_, .crowded decodes single⟩

/-- The exception that reading an argument leaves pending. -/
def raisedBy : Except Trouble String → Option Raised
  | .error (.pending raised) => some raised
  | _ => none

/-- The exception that tells the app of a violation. -/
def illegal (violation : Catalog.Violation) : Raised :=
  ⟨"java/lang/IllegalArgumentException", violation.message⟩

/-- The line that is logged about a violation. -/
def rejection (violation : Catalog.Violation) : LogLine :=
  ⟨.error, "rejecting catalog: " ++ violation.message⟩

/-- What rejecting an argument shows, and the exception that is pending before and after. -/
inductive Leaves (faults : List Fault) (violation : Catalog.Violation) :
    Option Raised → Option Raised → List Event → Prop where
  /-- An exception that is pending is left alone. -/
  | kept (raised : Raised) :
      Leaves faults violation (some raised) (some raised) [.log (rejection violation)]
  | thrown : Leaves faults violation none (some (illegal violation))
      [.log (rejection violation), .threw (illegal violation)]
  /-- A machine that cannot throw leaves none. -/
  | refused {fault} (member : fault ∈ faults) (throwing : fault.on = "ThrowNew") :
      Leaves faults violation none none [.log (rejection violation),
        .log ⟨.error, "failed to throw java/lang/IllegalArgumentException: " ++
          Trouble.cannotThrow.message⟩]

/-- What an entry orders. A lookup is shown on nothing. -/
def ordered (purpose : Purpose) (catalog : Catalog.Canonical) (activity : String) : Order :=
  ⟨purpose, .catalog catalog, match purpose with | .lookup => "" | .purchase => activity⟩

namespace Progress

variable (progress : Progress) (argument : Argument)

theorem read_reads :
    Reads progress.machine progress.pending argument (progress.read argument).1 := by
  unfold read
  cases pending : progress.pending with
  | some raised => exact .pending raised argument
  | none =>
      cases argument with
      | null => exact .null
      | foreign => exact .foreign
      | text units =>
          dsimp only
          split
          · next struck => exact .refused struck
          · next fine => exact .text fine

/-- Reading shows nothing, and leaves the exception pending that it met. -/
theorem read_leaves :
    (progress.read argument).2.pending = raisedBy (progress.read argument).1 ∧
      (progress.read argument).2.events = progress.events := by
  unfold read
  cases pending : progress.pending with
  | some raised => exact ⟨pending, rfl⟩
  | none =>
      cases argument with
      | null | foreign => exact ⟨pending, rfl⟩
      | text units =>
          dsimp only
          split
          · next trouble struck =>
            refine ⟨?_, by simp [after, Use.shown]⟩
            cases trouble <;> simp [after, struck, pending, raisedBy]
          · next fine =>
            exact ⟨by simp [after, fine, pending, raisedBy], by simp [after, Use.shown]⟩

/-- An exception that is pending is not replaced. -/
theorem throw_pending {pending : Raised} (already : progress.pending = some pending)
    (raised : Raised) : progress.throw raised = progress := by
  simp only [throw, already]

theorem throw_fine (free : progress.pending = none) {raised : Raised}
    (fine : (progress.machine.perform (.throwNew raised)).trouble = none) :
    (progress.throw raised).pending = some raised ∧
      (progress.throw raised).events = progress.events ++ [.threw raised] := by
  simp [throw, free, fine, after, Use.shown]

theorem throw_struck (free : progress.pending = none) {raised : Raised} {trouble : Trouble}
    (struck : (progress.machine.perform (.throwNew raised)).trouble = some trouble) :
    (progress.throw raised).pending = none ∧ (progress.throw raised).events =
      progress.events ++ [.log ⟨.error, "failed to throw " ++ raised.className ++ ": " ++
        Trouble.cannotThrow.message⟩] ∧
      ∃ fault ∈ progress.machine.faults, fault.on = "ThrowNew" := by
  obtain ⟨fault, member, named, rfl⟩ := Machine.perform_struck struck
  refine ⟨?_, ?_, fault, member, named⟩ <;>
    simp [throw, free, struck, after, log, note, Use.shown, Use.trouble]

theorem reject_leaves (violation : Catalog.Violation) :
    ∃ events, (progress.reject violation).events = progress.events ++ events ∧
      Leaves progress.machine.faults violation progress.pending
        (progress.reject violation).pending events := by
  let logged := progress.log .error ("rejecting catalog: " ++ violation.message)
  change ∃ events, (logged.throw (illegal violation)).events = progress.events ++ events ∧
    Leaves progress.machine.faults violation progress.pending
      (logged.throw (illegal violation)).pending events
  cases pending : progress.pending with
  | some raised =>
      rw [logged.throw_pending pending]
      exact ⟨_, rfl, by rw [show logged.pending = some raised from pending]; exact .kept raised⟩
  | none =>
      cases trouble : (logged.machine.perform (.throwNew (illegal violation))).trouble with
      | none =>
          obtain ⟨left, shows⟩ := logged.throw_fine pending trouble
          rw [left, shows]
          exact ⟨_, List.append_assoc .., .thrown⟩
      | some trouble =>
          obtain ⟨left, shows, fault, member, throwing⟩ := logged.throw_struck pending trouble
          rw [left, shows]
          exact ⟨_, List.append_assoc .., .refused member throwing⟩

/-- An entry, by its purpose. -/
def request (purpose : Purpose) (activity : String) : Option Order × Progress :=
  match purpose with
  | .lookup => progress.lookUp argument
  | .purchase => progress.purchase argument activity

variable {progress argument} {purpose : Purpose} {reading : Except Trouble String}
  (reads : Reads progress.machine progress.pending argument reading) (activity : String)
include reads

theorem catalog_broken {violation : Catalog.Violation}
    (decodes : Catalog.Canonical.decodeArgument (reading.mapError Trouble.message) =
      .error violation) :
    progress.catalog argument = (none, (progress.read argument).2.reject violation) := by
  rw [reads.unique (progress.read_reads argument)] at decodes
  simp only [Progress.catalog, decodes]

theorem catalog_fine {catalog : Catalog.Canonical}
    (decodes : Catalog.Canonical.decodeArgument (reading.mapError Trouble.message) =
      .ok catalog) :
    progress.catalog argument = (some catalog, (progress.read argument).2) := by
  rw [reads.unique (progress.read_reads argument)] at decodes
  simp only [Progress.catalog, decodes]

/-- An entry rejects what is judged to be a violation. -/
theorem request_rejects {violation : Catalog.Violation}
    (judges : Judges purpose reading (.error violation)) :
    progress.request argument purpose activity =
      (none, (progress.read argument).2.reject violation) := by
  cases judges with
  | unreadable purpose trouble =>
      cases purpose <;> simp [request, lookUp, Progress.purchase, catalog_broken reads rfl]
  | broken decodes =>
      cases purpose <;> simp [request, lookUp, Progress.purchase, catalog_broken reads decodes]
  | @crowded text catalog decodes many =>
      have crowded : catalog.single = .error (.purchaseCatalogSize catalog.size) := by
        unfold Catalog.Canonical.single
        split
        · next product only => simp [Catalog.Canonical.size, only] at many
        · rfl
      simp [request, Progress.purchase, catalog_fine reads decodes, crowded]

/-- An entry makes the call for what is judged to be a catalog. -/
theorem request_starts {catalog : Catalog.Canonical}
    (judges : Judges purpose reading (.ok catalog))
    (keeps : purpose = .purchase → ∀ fault ∈ progress.machine.faults, fault.on ≠ "GetJavaVM") :
    progress.pending = none ∧ (progress.request argument purpose activity).1 =
        some (ordered purpose catalog activity) ∧
      (progress.request argument purpose activity).2.pending = none ∧
      ∃ events, (progress.request argument purpose activity).2.events = progress.events ++ events ∧
        ∀ raised, .threw raised ∉ events := by
  have further := progress.read_extends argument
  obtain ⟨left, shows⟩ := progress.read_leaves argument
  obtain ⟨text, rfl, decodes⟩ : ∃ text, reading = .ok text ∧
      Catalog.Canonical.decode text = .ok catalog := by
    cases judges with
    | lookup decodes | purchase decodes => exact ⟨_, rfl, decodes⟩
  have free := reads.free
  have fine := catalog_fine reads decodes
  have same := reads.unique (progress.read_reads argument)
  rw [← same] at left
  refine ⟨free, ?_⟩
  cases judges with
  | lookup =>
      have entered : progress.request argument .lookup activity =
          (some (ordered .lookup catalog activity), (progress.read argument).2.log .debug
            ("looking up " ++ toString catalog.size ++ " product(s)")) := by
        simp only [request, lookUp, fine, ordered]
      rw [entered]
      exact ⟨rfl, left, _, congrArg (· ++ _) shows, by simp⟩
  | purchase decodes single =>
      obtain ⟨product, only⟩ := List.length_eq_one_iff.mp single
      have accepted : catalog.single = .ok product := by simp only [Catalog.Canonical.single, only]
      have kept : ((progress.read argument).2.machine.perform .findMachine).trouble = none :=
        Machine.perform_unstruck _ (further.faults ▸ keeps rfl)
      have entered : progress.request argument .purchase activity =
          (some (ordered .purchase catalog activity), (progress.read argument).2.after
            ((progress.read argument).2.machine.perform .findMachine)) := by
        simp only [request, Progress.purchase, fine, accepted, kept, ordered]
      rw [entered]
      refine ⟨rfl, ?_, [], ?_, by simp⟩
      · simpa only [after, kept, raisedBy] using left
      · simp [after, Use.shown, shows]

end Progress

namespace App

/-- A lookup or a purchase of an argument, with an exception pending or none. -/
def entrance (purpose : Purpose) (argument : Argument) (activity : String)
    (pending : Option Raised) : Entrance :=
  ⟨match purpose with
    | .lookup => .lookUp argument
    | .purchase => .purchase argument activity, pending⟩

/-- An app whose entry was rejected: no call was made, and all else is as it was. -/
structure Rejected (app : App) (entrance : Entrance) (violation : Catalog.Violation)
    (raised : Option Raised) : Prop where
  alike : app.Alike (app.enter entrance).2
  /-- Of exceptions, the one pending is left, or the one of the violation thrown. -/
  leaves : ∃ events, shown (app.enter entrance).2.service = shown app.service ++ events ∧
    Leaves app.service.world.machine.faults violation raised (app.enter entrance).1 events
  /-- And no call is started. -/
  unstarted : (app.step entrance).calls.map (·.order) = app.calls.map (·.order)

/-- An app whose entry was accepted: one call was made, and all else is as it was. -/
structure Started (app : App) (entrance : Entrance) (order : Order) : Prop where
  alike : Alike { app with calls := app.calls ++ [{ order := order }] } (app.enter entrance).2
  /-- No exception was pending, none is, and none was thrown. -/
  free : entrance.pending = none ∧ (app.enter entrance).1 = none
  silent : ∃ events, shown (app.enter entrance).2.service = shown app.service ++ events ∧
    ∀ raised, .threw raised ∉ events
  /-- The call is the only one that is new, and it is started. -/
  started : (app.step entrance).calls.map (·.order) = app.calls.map (·.order) ++ [order]
  begun : ∀ {call}, (app.step entrance).calls[app.calls.length]? = some call →
    call.status ≠ .notStarted

/-- What holds of an entry into an app. -/
structure Decides (app : App) (purpose : Purpose) (argument : Argument) (activity : String)
    (pending : Option Raised) : Prop where
  /-- Every argument is read and judged. -/
  decided : ∃ reading verdict, Reads app.service.world.machine pending argument reading ∧
    Judges purpose reading verdict
  rejects : ∀ {reading violation}, Reads app.service.world.machine pending argument reading →
    Judges purpose reading (.error violation) →
    app.Rejected (entrance purpose argument activity pending) violation (raisedBy reading)
  starts : ∀ {reading catalog}, Reads app.service.world.machine pending argument reading →
    Judges purpose reading (.ok catalog) →
    app.Started (entrance purpose argument activity pending) (ordered purpose catalog activity)

/-- A bridge names no moments at which it answers. -/
theorem hosted_honest (detached : Bool) : (hosted detached).Honest := by
  intro scene stage since present later moment due
  simp [hosted] at due

variable (app : App)

/-- Letting calls go on makes none. -/
theorem settle_orders : app.settle.calls.map (·.order) = app.calls.map (·.order) :=
  app.present_interleaves.orders

/-- It starts every call that is not put off. -/
theorem settle_begun {index : Nat} {call after : Call} (found : app.calls[index]? = some call)
    (atOnce : call.delay = 0) (later : app.settle.calls[index]? = some after) :
    after.status ≠ .notStarted := by
  rw [settle_eq] at later
  have plans := congrArg (·[index]?) app.present_interleaves.plans.2
  have here : app.present.calls[index]? = some call := found
  simp only [List.getElem?_map, later, here, Option.map_some, Option.some.injEq,
    Call.mk.injEq] at plans
  have kept : after.delay = call.delay := plans.2.1
  intro idle
  obtain ⟨ended, among⟩ : ∃ ended, ∀ due ∈ after.dues (hosted true) {}
      (Timeline.startOf false ended after) app.service.world,
      due ∈ Timeline.callDues (hosted true) {} false app.service.world (some 0)
        (app.present.advance (hosted true) {} 0).calls :=
    Timeline.mem_callDues (some 0) later
  have due := Timeline.advanceCalls_dues (hosted_honest true) 0 (some 0) app.calls app.service 0
    (among 0 (by simp [Call.dues, Timeline.startOf, idle, kept, atOnce]))
  omega

variable (purpose : Purpose) (argument : Argument) (activity : String) (pending : Option Raised)

/-- An entry comes to what its request comes to. -/
theorem entrance_outcome : (entrance purpose argument activity pending).outcome app.service.world =
    (((Progress.mk app.service.world.machine pending []).request argument purpose activity).1,
      ((Progress.mk app.service.world.machine pending []).request argument purpose activity).2,
      app.service.world.board) := by
  cases purpose <;> rfl

/-- An entry leaves the bridge as it was, but for what it makes and what it shows. -/
theorem entrance_alike :
    Alike { app with calls := app.calls ++
        ((Progress.mk app.service.world.machine pending []).request argument purpose
          activity).1.toList.map fun order => { order := order } }
      (app.enter (entrance purpose argument activity pending)).2 := by
  have unbinding : ∀ home, (entrance purpose argument activity pending).method ≠ .bind home := by
    cases purpose <;> simp [entrance]
  have further := Entrance.outcome_extends unbinding app.service.world
  have outcome := entrance_outcome app purpose argument activity pending
  exact {
    calls := by rw [enter_calls, outcome]
    busy := by simp
    opened := by simp
    deeds := enter_deeds ..
    board := by simp [outcome]
    home := by simpa [home?] using further.home
    classes := by simpa using further.classes
    faults := by simpa using further.faults
  }

/-- An entry shows what its request shows. -/
theorem shown_enter (entrance : Entrance) :
    shown (app.enter entrance).2.service =
      shown app.service ++ (entrance.outcome app.service.world).2.1.events := by
  simp only [shown, enter_service, List.filterMap_append, filterMap_shown?]

/-- A step starts the calls that its entry makes. -/
theorem step_orders (entrance : Entrance) :
    (app.step entrance).calls.map (·.order) = (app.enter entrance).2.calls.map (·.order) :=
  (app.enter entrance).2.settle_orders

/-- A lookup or a purchase rejects its argument, telling the app by an exception, or it starts
the one call it is meant to: never both, and never neither. -/
theorem entries_decide (keeps : purpose = .purchase →
    ∀ fault ∈ app.service.world.machine.faults, fault.on ≠ "GetJavaVM") :
    app.Decides purpose argument activity pending := by
  let progress : Progress := ⟨app.service.world.machine, pending, []⟩
  have outcome := app.entrance_outcome purpose argument activity pending
  have alike := app.entrance_alike purpose argument activity pending
  have shows := app.shown_enter (entrance purpose argument activity pending)
  have left := app.enter_pending (entrance purpose argument activity pending)
  have orders := app.step_orders (entrance purpose argument activity pending)
  rw [outcome] at shows left
  refine ⟨?_, fun {reading violation} reads judges => ?_, fun {reading catalog} reads judges => ?_⟩
  · obtain ⟨verdict, judges⟩ := judges_total purpose (progress.read argument).1
    exact ⟨_, verdict, progress.read_reads argument, judges⟩
  · have rejects : progress.request argument purpose activity = _ :=
      Progress.request_rejects reads activity judges
    obtain ⟨met, quiet⟩ := progress.read_leaves argument
    obtain ⟨events, said, leaves⟩ := (progress.read argument).2.reject_leaves violation
    rw [(progress.read_extends argument).faults, met,
      ← reads.unique (progress.read_reads argument)] at leaves
    rw [rejects] at alike shows left
    simp only [Option.toList_none, List.map_nil, List.append_nil] at alike
    refine ⟨alike, ⟨events, ?_, left ▸ leaves⟩, orders.trans (by rw [alike.calls])⟩
    rw [shows, said, quiet, List.nil_append]
  · obtain ⟨free, makes, unthrown, events, said, silent⟩ : progress.pending = none ∧ _ :=
      Progress.request_starts reads activity judges keeps
    rw [makes] at alike
    simp only [Option.toList_some, List.map_cons, List.map_nil] at alike
    have made :
        (app.enter (entrance purpose argument activity pending)).2.calls[app.calls.length]? =
          some { order := ordered purpose catalog activity } := by
      rw [alike.calls, List.getElem?_concat_length]
    refine ⟨alike, ⟨free, left.trans unthrown⟩, ⟨events, ?_, silent⟩, orders.trans ?_,
      fun found => settle_begun _ made rfl found⟩
    · rw [shows, said, List.nil_append]
    · rw [alike.calls, List.map_append, List.map_singleton]

/-- Its text is read as a catalog of one product. -/
theorem premium_reads {machine : Machine} (fine : (machine.perform .readText).trouble = none) :
    ∃ text, Reads machine none premium (.ok text) ∧
      Catalog.Canonical.decode text = .ok ⟨[⟨false, "subs", "premium"⟩]⟩ := by
  refine ⟨_, .text fine, ?_⟩
  have decoded : (Catalog.Canonical.decode (Text.Units.encode premiumText).decode).toOption =
      some ⟨[⟨false, "subs", "premium"⟩]⟩ := by decide +kernel
  revert decoded
  generalize Catalog.Canonical.decode _ = result
  intro decoded
  cases result with
  | error violation => cases decoded
  | ok catalog => exact congrArg Except.ok (Option.some.inj decoded)

/-- An exception of the app's own. -/
def stale : Raised :=
  ⟨"java.lang.IllegalStateException", "pending"⟩

/-- A purchase of one product is started, and rejected while an exception is pending, which is
left as it is. -/
theorem premium_decided :
    (ready ⟨"context", "loader"⟩ []).Started (entrance .purchase premium "screen" none)
        ⟨.purchase, .catalog ⟨[⟨false, "subs", "premium"⟩]⟩, "screen"⟩ ∧
      (ready ⟨"context", "loader"⟩ []).Rejected (entrance .purchase premium "screen" (some stale))
        (.unreadable "Java exception was thrown") (some stale) := by
  have decides := fun pending => (ready ⟨"context", "loader"⟩ []).entries_decide .purchase premium
    "screen" pending (by simp [ready])
  obtain ⟨text, reads, decodes⟩ :=
    premium_reads (rfl : ((ready ⟨"context", "loader"⟩ []).service.world.machine.perform
      .readText).trouble = none)
  exact ⟨(decides none).starts reads (.purchase decodes rfl),
    (decides (some stale)).rejects (.pending stale premium) (.unreadable _ _)⟩

/-- An app whose machine raises an exception the first time a text is read. -/
def illiterate : App :=
  ready ⟨"context", "loader"⟩ [⟨"GetStringUTFChars", some 1, false⟩]

/-- No exception was pending when its lookup was rejected, and the one that is pending then tells
of no violation. -/
theorem illiterate_unillegal :
    (illiterate.step ⟨.lookUp premium, none⟩).calls = [] ∧
      (illiterate.enter ⟨.lookUp premium, none⟩).1 =
        some ⟨"java.lang.OutOfMemoryError", "GetStringUTFChars"⟩ ∧
      ∀ violation, (illiterate.enter ⟨.lookUp premium, none⟩).1 ≠ some (illegal violation) := by
  have raises : (illiterate.enter ⟨.lookUp premium, none⟩).1 =
      some ⟨"java.lang.OutOfMemoryError", "GetStringUTFChars"⟩ := by decide +kernel
  exact ⟨by decide +kernel, raises, fun violation => by simp [raises, illegal]⟩

end App

end Storefront.Host
