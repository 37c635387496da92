import ResponseTracker.ViewControllers.AppBook

/-!
# The order of the list

Each time the list loads it sorts the emergencies by their figures. Within one
month, emergencies that are left alone keep their figures and their order
(`order_kept`), and an emergency that gets a response moves up past others that
stay in order (`added_rises`).
-/

namespace ResponseTracker

open DataManager Execution Book

variable {device : Device}

/-! ## Figures -/

namespace EmergencyList

/-- The score by which the list is sorted. -/
def figure (device : Device) (stores : Stores) (now : Date) (emergency : RowKey) : Int :=
  (numberOfCalls device stores now emergency).getD 0

variable {before after stores : Stores} {now later : Date} {emergency : RowKey}

/-- The list is the stored keys, sorted by their figures. -/
theorem loadData_sorted (device : Device) (now : Date) (stores : Stores) :
    EmergencyScreens.loadData device now stores =
      (stores.tables.emergencies.map EmergencyRow.key).insertionSort fun left right =>
        figure device stores now left ≥ figure device stores now right := by
  have scores : ∀ row ∈ stores.tables.emergencies, figure device stores now row.key =
      monthPoints device stores.defaults stores.tables now row := by
    intro row member
    rw [figure, numberOfCalls, Tables.emergency?_of_mem member]
    rfl
  refine List.map_insertionSort _ _ EmergencyRow.key _ fun left leftIn right rightIn => ?_
  rw [scores left leftIn, scores right rightIn]

/-- The number of calls is the number of entries of its page since the bound. -/
theorem numberOfCalls_eq (device : Device) (stores : Stores) (now : Date) (emergency : RowKey) :
    numberOfCalls device stores now emergency = (stores.tables.book emergency).map fun page =>
      countSince (monthBound device stores.defaults.lastPointReset now)
        (page.entries.map Prod.snd) := by
  rw [numberOfCalls, Tables.book, Option.map_map]
  refine Option.map_congr fun row _ => ?_
  rw [Function.comp_apply, Tables.page_values]
  rfl

theorem numberOfCalls_congr
    (page : after.tables.book emergency = before.tables.book emergency)
    (lastReset : after.defaults.lastPointReset = before.defaults.lastPointReset)
    (month : startOfMonth device.timeZone later = startOfMonth device.timeZone now) :
    numberOfCalls device after later emergency = numberOfCalls device before now emergency := by
  rw [numberOfCalls_eq, numberOfCalls_eq, page, lastReset, monthBound, monthBound, month]

end EmergencyList

/-! ## Emergencies left alone -/

/-- The chosen emergencies keep their pages and their order in the store, and
the last reset is the same. -/
structure Stores.Keeps (chosen : RowKey → Bool) (before after : Stores) : Prop where
  pages : ∀ emergency, chosen emergency = true →
    after.tables.book emergency = before.tables.book emergency
  order : (after.tables.emergencies.map EmergencyRow.key).filter chosen =
    (before.tables.emergencies.map EmergencyRow.key).filter chosen
  lastReset : after.defaults.lastPointReset = before.defaults.lastPointReset

/-- The action is on no chosen emergency. Deleting an emergency is not meant
either, which may change the order of others that have the same figure, nor is
a reset. -/
def Action.Spares (tables : Tables) (chosen : RowKey → Bool) : Action → Prop
  | .mutate (.removeEmergency _) | .mutate .clearAllData | .clearPoints => False
  | .mutate mutation => ∀ change ∈ mutation.change tables.nextKey, ∀ emergency,
      chosen emergency = true → change.on tables.book emergency = false
  | .manuallyAdd _ => True

section Keeps

variable {chosen : RowKey → Bool} {first before after : Stores}

theorem Stores.Keeps.refl (chosen : RowKey → Bool) (stores : Stores) :
    stores.Keeps chosen stores :=
  ⟨fun _ _ => rfl, rfl, rfl⟩

theorem Stores.Keeps.trans (earlier : first.Keeps chosen before)
    (later : before.Keeps chosen after) : first.Keeps chosen after :=
  ⟨fun emergency kept => (later.pages emergency kept).trans (earlier.pages emergency kept),
    later.order.trans earlier.order, later.lastReset.trans earlier.lastReset⟩

/-- In the same month, the chosen emergencies are loaded in the same order. -/
theorem Stores.Keeps.listed (kept : before.Keeps chosen after) {now later : Date}
    (month : startOfMonth device.timeZone later = startOfMonth device.timeZone now) :
    (EmergencyScreens.loadData device later after).filter chosen =
      (EmergencyScreens.loadData device now before).filter chosen := by
  rw [EmergencyList.loadData_sorted, EmergencyList.loadData_sorted, Ranking.filter_insertionSort,
    Ranking.filter_insertionSort, kept.order]
  refine Ranking.insertionSort_congr fun emergency member => ?_
  have page := kept.pages emergency (List.mem_filter.mp member).2
  rw [EmergencyList.figure, EmergencyList.figure,
    EmergencyList.numberOfCalls_congr page kept.lastReset month]

/-- A mutation that spares the chosen emergencies stores no others among them. -/
theorem Mutation.requested_order {mutation : Mutation} {tables contents : Tables}
    (fromScreens : Action.FromScreens (.mutate mutation))
    (spares : Action.Spares tables chosen (.mutate mutation))
    (asked : mutation.requested tables = some contents) :
    (contents.emergencies.map EmergencyRow.key).filter chosen =
      (tables.emergencies.map EmergencyRow.key).filter chosen := by
  have kept : mutation.KeepsEmergencies →
      (contents.emergencies.map EmergencyRow.key).filter chosen =
        (tables.emergencies.map EmergencyRow.key).filter chosen := by
    intro keeps
    rw [requested_emergencies keeps asked]
  cases mutation with
  | addEmergency emergency =>
      obtain ⟨type, -, rfl⟩ := fromScreens
      obtain rfl := Option.some.inj asked
      have notChosen : chosen tables.nextKey = false := by
        by_contra isChosen
        have apart := spares _ rfl tables.nextKey (Bool.eq_true_of_not_eq_false isChosen)
        simp [Change.on] at apart
      simp [Tables.insertEmergency, notChosen]
  | removeEmergency emergency => exact absurd spares id
  | clearAllData => exact absurd spares id
  | _ => exact kept trivial

theorem Mutation.requested_pages {mutation : Mutation} {tables contents : Tables}
    (owned : tables.Owned) (fromScreens : Action.FromScreens (.mutate mutation))
    (spares : Action.Spares tables chosen (.mutate mutation))
    (asked : mutation.requested tables = some contents) {emergency : RowKey}
    (isChosen : chosen emergency = true) : contents.book emergency = tables.book emergency := by
  obtain ⟨change, changes, -, entered⟩ :=
    Mutation.requested_book owned (Mutation.fresh_of_fromScreens fromScreens) asked
  have apart : change.on tables.book emergency = false := by
    cases mutation with
    | removeEmergency target => exact absurd spares id
    | clearAllData => exact absurd spares id
    | _ => exact spares change changes emergency isChosen
  rw [entered, Change.apply, Change.onPage_of_not_on apart]

theorem Mutation.defaultsAfter_of_spares {mutation : Mutation} {tables : Tables}
    (spares : Action.Spares tables chosen (.mutate mutation)) (now : Date)
    (defaults : UserDefaults) : mutation.defaultsAfter now defaults = defaults := by
  cases mutation with
  | clearAllData => exact absurd spares id
  | _ => rfl

/-- An operation that spares the chosen emergencies keeps them. -/
theorem App.storesAfter_keeps {app : App} {event : UserEvent} (coherent : app.Coherent device)
    (owned : app.stores.tables.Owned)
    (spares : ∀ action, app.request event = some action → action.Spares app.stores.tables chosen)
    (performed : app.storesAfter device event = some after) : app.stores.Keeps chosen after := by
  rw [storesAfter] at performed
  cases asks : app.request event with
  | none =>
      rw [asks] at performed
      obtain rfl := Option.some.inj performed
      exact .refl chosen app.stores
  | some action =>
      have fromScreens := request_fromScreens coherent asks
      have spared := spares action asks
      rw [asks, Option.map_eq_some_iff] at performed
      obtain ⟨⟨left, calls⟩, performed, rfl⟩ := performed
      cases action with
      | mutate mutation =>
          obtain ⟨-, contents, asked, rfl, -⟩ := perform_cases device _ _ performed
          have defaults := Mutation.defaultsAfter_of_spares spared event.now app.stores.defaults
          by_cases rejected : mutation.rejected device app.stores.tables = true
          · have tables : mutation.staged device app.stores.tables contents = app.stores.tables :=
              if_pos rejected
            rw [tables, defaults]
            exact ⟨fun _ _ => by rw [tables_settled], by rw [tables_settled], rfl⟩
          · have tables : mutation.staged device app.stores.tables contents = contents :=
              if_neg rejected
            rw [tables, defaults]
            refine ⟨fun emergency isChosen => ?_, ?_, rfl⟩
            · rw [tables_settled]
              exact Mutation.requested_pages owned fromScreens spared asked isChosen
            · rw [tables_settled]
              exact Mutation.requested_order fromScreens spared asked
      | manuallyAdd points =>
          obtain ⟨rfl, -⟩ := Prod.mk.inj (Option.some.inj performed)
          exact ⟨fun _ _ => rfl, rfl, rfl⟩
      | clearPoints => exact absurd spared id

end Keeps

/-- A gesture in the month of an instant that spares the chosen emergencies. -/
def SparingGesture (device : Device) (chosen : RowKey → Bool) (instant : Date)
    (performed : Performed Process ProcessEvent) : Prop :=
  ∃ app event, performed.before = .running app ∧ performed.action = .gesture event ∧
    startOfMonth device.timeZone event.now = startOfMonth device.timeZone instant ∧
    ∀ action, app.request event = some action → action.Spares app.stores.tables chosen

/-- The list has the chosen emergencies in the order in which it would load them
from given stores, which have been kept. -/
def Process.Shows (device : Device) (chosen : RowKey → Bool) (instant : Date) (stores : Stores) :
    Process → Prop
  | .running app => stores.Keeps chosen app.stores ∧ app.list.emergencyTypes.filter chosen =
      (EmergencyScreens.loadData device instant stores).filter chosen
  | .ended _ => False

theorem Process.Shows.step {chosen : RowKey → Bool} {instant : Date} {stores : Stores}
    {before after : Process} {event : ProcessEvent}
    (shows : before.Shows device chosen instant stores) (coherent : before.Coherent device)
    (owned : before.stores.tables.Owned)
    (sparing : SparingGesture device chosen instant ⟨before, event, after⟩)
    (step : Process.Step device before event after) :
    after.Shows device chosen instant stores := by
  obtain ⟨app, event, rfl, rfl, month, spares⟩ := sparing
  obtain ⟨kept, listed⟩ := shows
  obtain ⟨offered, next, handled, rfl⟩ := step
  obtain ⟨screen, same, -, -⟩ := App.comes coherent offered
  rw [same] at handled
  have performed := (App.comesTo_eq_some_iff.mp handled).1
  have keptAfter := kept.trans (App.storesAfter_keeps coherent owned spares performed)
  refine ⟨keptAfter, ?_⟩
  cases loads : app.loads device event with
  | true =>
      rw [(App.current_of_loads loads handled).emergencyTypes]
      exact keptAfter.listed month
  | false => rw [App.list_of_not_loads loads handled, listed]

/-- Emergencies that are left alone keep their order. From wherever the program
has got to, with a list loaded at some instant, any gestures in the same month
on whatever screens, the adding of emergencies, of points and of responses to
other emergencies among them, leave the chosen emergencies in the order they had
on the list and their figures as they were. -/
theorem order_kept {earlier session : List (Performed Process ProcessEvent)} {opened left : App}
    {chosen : RowKey → Bool} {instant : Date}
    (runs : Runs (Process.Step device) (.ended Stores.empty) earlier (.running opened))
    (current : opened.list.Current device opened.stores instant)
    (gestures : Runs (Process.Step device) (.running opened) session (.running left))
    (spares : ∀ performed ∈ session, SparingGesture device chosen instant performed) :
    left.list.emergencyTypes.filter chosen = opened.list.emergencyTypes.filter chosen ∧
    ∀ emergency, chosen emergency = true →
      EmergencyList.numberOfCalls device left.stores instant emergency =
        EmergencyList.numberOfCalls device opened.stores instant emergency := by
  have reached : ∀ {session process}, Runs (Process.Step device) (.running opened) session process →
      (∀ performed ∈ session, SparingGesture device chosen instant performed) →
        process.Shows device chosen instant opened.stores := by
    intro session process gestures spares
    induction gestures with
    | initial => exact ⟨.refl chosen opened.stores, by rw [current.emergencyTypes]⟩
    | @step history before action after prior transition ih =>
        have here := runs.append prior
        exact (ih fun performed member => spares performed (List.mem_append_left _ member)).step
          (runs_coherent here) (process_owned here).visible
          (spares _ (List.mem_append_right _ (List.mem_singleton_self _))) transition
  obtain ⟨kept, listed⟩ := reached gestures spares
  refine ⟨listed.trans (by rw [current.emergencyTypes]), fun emergency isChosen => ?_⟩
  exact EmergencyList.numberOfCalls_congr (kept.pages emergency isChosen) kept.lastReset rfl

/-- A third emergency is added to two. -/
theorem order_kept_storm :
    let two := (Tables.empty.insertEmergency "Fire").insertEmergency "Flood"
    let three := two.insertEmergency "Storm"
    EmergencyList.numberOfCalls (Device.gmt "") ⟨⟨three, none⟩, {}⟩ 0 1 =
      EmergencyList.numberOfCalls (Device.gmt "") ⟨⟨two, none⟩, {}⟩ 0 1 := by
  intro two three
  let opened : App := ⟨⟨⟨two, none⟩, {}⟩, ⟨[0, 1], {}, false⟩, none⟩
  let left : App := ⟨⟨⟨three, none⟩, {}⟩, ⟨[0, 1, 2], {}, false⟩, none⟩
  obtain ⟨history, runs⟩ := runs_flood
  have current : opened.list.Current (Device.gmt "") opened.stores 0 :=
    ⟨by decide +kernel, by decide +kernel, rfl⟩
  have loaded : EmergencyList.loadData (Device.gmt "") 5 left.stores = some left.list :=
    EmergencyList.loadData_eq_some_iff.mpr
      ⟨(totalsFit_iff_of_nil rfl).mpr (by decide), by decide +kernel, by decide +kernel, rfl⟩
  have handled : opened.handle (Device.gmt "") ⟨.onAddCall "Storm", 5, true⟩ = some left :=
    (App.onAddCall_eq _ _ "Storm" 5 true).trans
      (App.comesTo_eq_some_iff.mpr ⟨rfl, loaded, rfl, rfl⟩)
  have adds : Process.Step (Device.gmt "") (.running opened)
      (.gesture ⟨.onAddCall "Storm", 5, true⟩) (.running left) := ⟨trivial, left, handled, rfl⟩
  have sparing : SparingGesture (Device.gmt "") (· != 2) 0
      ⟨.running opened, .gesture ⟨.onAddCall "Storm", 5, true⟩, .running left⟩ := by
    refine ⟨opened, _, rfl, rfl, by decide +kernel, ?_⟩
    rintro action ⟨⟩ change ⟨⟩ emergency notNew
    refine decide_eq_false fun new => ?_
    obtain rfl : 2 = emergency := new
    exact absurd notNew (by decide)
  exact (order_kept runs current (.step .initial adds)
    (List.forall_mem_singleton.mpr sparing)).2 1 rfl

/-! ## An emergency that gets a response -/

/-- A gesture that adds a response loads the list. -/
theorem App.loads_of_adds {app : App} {event : UserEvent} {response : ResponseRef}
    {emergency : RowKey} (coherent : app.Coherent device)
    (asks : app.request event = some (.mutate (.addResponse response emergency))) :
    app.loads device event = true := by
  cases asks_of_request coherent asks with
  | respond => rfl
  | add => rfl

/-- What a response adds to a figure. -/
theorem EmergencyList.numberOfCalls_appendNew (device : Device) {before after : Stores}
    {emergency : RowKey} {value : Response}
    (tables : after.tables = before.tables.appendNew emergency value)
    (defaults : after.defaults = before.defaults) (now : Date) (other : RowKey) :
    numberOfCalls device after now other = (numberOfCalls device before now other).map (· +
      if other = emergency ∧ monthBound device before.defaults.lastPointReset now ≤ value.date
      then 1 else 0) := by
  rw [numberOfCalls_eq, numberOfCalls_eq, tables, defaults, Tables.appendNew_book, Change.apply,
    Change.onPage, Option.map_map]
  have counted : ∀ bound, countSince bound ([(before.tables.nextKey, value)].map Prod.snd) =
      if bound ≤ value.date then 1 else 0 := by
    intro bound
    by_cases counts : bound ≤ value.date <;> simp [countSince, counts]
  by_cases here : emergency = other
  · rw [if_pos here, Option.map_map]
    refine Option.map_congr fun page _ => ?_
    rw [Function.comp_apply, Function.comp_apply, List.map_append, countSince_append, counted]
    simp [here]
  · rw [if_neg here]
    refine Option.map_congr fun page _ => ?_
    simp [Ne.symm here]

/-- The score of no emergency falls, and that of no other changes. -/
theorem EmergencyList.figure_appendNew (device : Device) {before after : Stores}
    {emergency : RowKey} {value : Response}
    (stored : (before.tables.emergency? emergency).isSome)
    (tables : after.tables = before.tables.appendNew emergency value)
    (defaults : after.defaults = before.defaults) (now : Date) (other : RowKey) :
    figure device after now other = figure device before now other +
      if other = emergency ∧ monthBound device before.defaults.lastPointReset now ≤ value.date
      then 1 else 0 := by
  rw [figure, figure, numberOfCalls_appendNew device tables defaults]
  cases number : numberOfCalls device before now other with
  | some number => rfl
  | none =>
      have absent : other ≠ emergency := by
        rintro rfl
        rw [numberOfCalls, Option.map_eq_none_iff] at number
        rw [number] at stored
        exact absurd stored (by simp)
      simp [absent]

/-- A response that is added on the list or on its own screen moves its emergency
up. Each figure is what it was, but that of the emergency is greater by one if
the date of the response is at or after `startOfMonth()` as the code computes it
and not before the last reset; there is no upper end, so a date in a later month
counts too. The emergency is placed no lower than the list would have had it
without the response, and all others are in the order in which it would have had
them: that shown before, if the list was loaded in this month. -/
theorem added_rises {stores : Stores} {history : List (Performed Process ProcessEvent)}
    {before after : App} {event : UserEvent} {value : Response} {emergency : RowKey}
    (runs : Runs (Process.Step device) (.ended stores) history (.running before))
    (adds : Process.Step device (.running before) (.gesture event) (.running after))
    (asks : before.request event = some (.mutate (.addResponse (.unmanaged value) emergency))) :
    let listed := EmergencyScreens.loadData device event.now before.stores
    (∀ other, EmergencyList.numberOfCalls device after.stores event.now other =
      (EmergencyList.numberOfCalls device before.stores event.now other).map (· +
        if other = emergency ∧
          monthBound device before.stores.defaults.lastPointReset event.now ≤ value.date
        then 1 else 0)) ∧
    after.list.emergencyTypes.idxOf emergency ≤ listed.idxOf emergency ∧
    after.list.emergencyTypes.filter (· ≠ emergency) = listed.filter (· ≠ emergency) ∧
    ∀ instant, before.list.Current device before.stores instant →
      startOfMonth device.timeZone instant = startOfMonth device.timeZone event.now →
        before.list.emergencyTypes = listed := by
  intro listed
  have coherent : before.Coherent device := runs_coherent runs
  obtain ⟨offered, _, handled, ⟨⟩⟩ := adds
  obtain ⟨screen, same, -, -⟩ := App.comes coherent offered
  rw [same] at handled
  obtain ⟨stored, tables, defaults⟩ := App.appended_of_asks asks handled
  have current := App.current_of_loads (App.loads_of_adds coherent asks) handled
  have figures := EmergencyList.figure_appendNew device stored tables defaults event.now
  have others : ∀ other, other ≠ emergency →
      EmergencyList.figure device after.stores event.now other =
        EmergencyList.figure device before.stores event.now other := by
    intro other different
    rw [figures, if_neg fun here => different here.1, add_zero]
  have raised : EmergencyList.figure device before.stores event.now emergency ≤
      EmergencyList.figure device after.stores event.now emergency := by
    rw [figures, le_add_iff_nonneg_right]
    split <;> decide
  have keys : after.stores.tables.emergencies.map EmergencyRow.key =
      before.stores.tables.emergencies.map EmergencyRow.key := by
    rw [tables, Tables.appendNew_emergencies_key]
  have shown : after.list.emergencyTypes =
      (before.stores.tables.emergencies.map EmergencyRow.key).insertionSort fun left right =>
        EmergencyList.figure device after.stores event.now left ≥
          EmergencyList.figure device after.stores event.now right := by
    rw [current.emergencyTypes, EmergencyList.loadData_sorted, keys]
  obtain ⟨forward, order⟩ := Ranking.raised others raised before.stores.tables.emergencies_nodup
    (Tables.emergency?_isSome.mp stored)
  rw [shown, show listed = _ from EmergencyList.loadData_sorted device event.now before.stores]
  refine ⟨EmergencyList.numberOfCalls_appendNew device tables defaults event.now, forward, order,
    fun instant loaded month => ?_⟩
  have all := (Stores.Keeps.refl (fun _ => true) before.stores).listed month
  rw [List.filter_true, List.filter_true] at all
  rw [loaded.emergencyTypes, all, EmergencyList.loadData_sorted]

/-- Of two emergencies the second gets a response. -/
theorem added_rises_flood :
    let two := (Tables.empty.insertEmergency "Fire").insertEmergency "Flood"
    let responded : Stores := ⟨⟨two.appendNew 1 ⟨"", "", 5⟩, none⟩, {}⟩
    EmergencyList.numberOfCalls (Device.gmt "") responded 5 1 = some 1 ∧
      EmergencyList.numberOfCalls (Device.gmt "") responded 5 0 = some 0 := by
  intro two responded
  let before : App := ⟨⟨⟨two, none⟩, {}⟩, ⟨[0, 1], {}, false⟩, none⟩
  let points := getPoints (Device.gmt "") responded 5
  let after : App := ⟨responded, ⟨[1, 0], points, false⟩, none⟩
  obtain ⟨history, runs⟩ := runs_flood
  have loaded : EmergencyList.loadData (Device.gmt "") 5 responded = some after.list :=
    EmergencyList.loadData_eq_some_iff.mpr
      ⟨(totalsFit_iff_of_nil rfl).mpr (by decide), by decide +kernel, rfl, rfl⟩
  have handled : before.handle (Device.gmt "") ⟨.onResponded 1, 5, true⟩ = some after :=
    (App.onResponded_eq rfl rfl 5 true).trans
      (App.comesTo_eq_some_iff.mpr ⟨rfl, loaded, rfl, rfl⟩)
  have adds : Process.Step (Device.gmt "") (.running before)
      (.gesture ⟨.onResponded 1, 5, true⟩) (.running after) :=
    ⟨⟨rfl, by decide⟩, after, handled, rfl⟩
  obtain ⟨figures, -, -, -⟩ := added_rises runs adds rfl
  exact ⟨(figures 1).trans (by decide +kernel), (figures 0).trans (by decide +kernel)⟩

end ResponseTracker
