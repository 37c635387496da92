import ResponseTracker.Std.Simulation
import Mathlib.Logic.Function.Basic

/-!
# Books of named pages

A book has a named page under some of its keys, and each page has entries, which
are items with a value each, in order. An item is on one page at most, so a
change of an entry names the item only.

What a change does to one page depends on this page alone (`Change.onPage`).
`page_eq` draws from this that a page is what the changes of this page have
made of it, however changes of other pages were interleaved with them.
-/

namespace Book

open Execution

universe u v w x

variable {Key : Type u} {Name : Type v} {Item : Type w} {Value : Type x}

@[ext]
structure Page (Name : Type v) (Item : Type w) (Value : Type x) where
  name : Name
  entries : List (Item × Value)

/-- The pages of a book by their keys. -/
abbrev Pages (Key : Type u) (Name : Type v) (Item : Type w) (Value : Type x) :=
  Key → Option (Page Name Item Value)

def Page.items (page : Page Name Item Value) : List Item := page.entries.map Prod.fst

inductive Change (Key : Type u) (Name : Type v) (Item : Type w) (Value : Type x) where
  | insert (key : Key) (page : Page Name Item Value)
  | rename (key : Key) (name : Name)
  | remove (key : Key)
  | append (key : Key) (item : Item) (value : Value)
  | erase (item : Item)
  | replace (item : Item) (value : Value)
  | clear

/-- The entry of an item with another value. -/
def replaced [DecidableEq Item] (item : Item) (value : Value) (entry : Item × Value) :
    Item × Value :=
  if entry.1 = item then (item, value) else entry

/-- An item is on some page. -/
def Holds (book : Pages Key Name Item Value) (item : Item) : Prop :=
  ∃ key, ∃ page ∈ book key, item ∈ page.items

namespace Change

variable [DecidableEq Key] [DecidableEq Item]

/-- What becomes of the page under a key. -/
def onPage (key : Key) (page? : Option (Page Name Item Value)) :
    Change Key Name Item Value → Option (Page Name Item Value)
  | .insert target page => if target = key then some page else page?
  | .rename target name =>
      if target = key then page?.map fun page => { page with name } else page?
  | .remove target => if target = key then none else page?
  | .append target item value =>
      if target = key then
        page?.map fun page => { page with entries := page.entries ++ [(item, value)] }
      else page?
  | .erase item =>
      page?.map fun page => { page with entries := page.entries.filter fun entry => entry.1 ≠ item }
  | .replace item value =>
      page?.map fun page => { page with entries := page.entries.map (replaced item value) }
  | .clear => none

def apply (change : Change Key Name Item Value) (book : Pages Key Name Item Value) :
    Pages Key Name Item Value :=
  fun key => change.onPage key (book key)

/-- New keys and items are not in the book yet, all others are. -/
def Allowed (book : Pages Key Name Item Value) : Change Key Name Item Value → Prop
  | .insert key page => book key = none ∧ page.items.Nodup ∧ ∀ item ∈ page.items, ¬ Holds book item
  | .rename key _ => book key ≠ none
  | .remove key => book key ≠ none
  | .append key item _ => book key ≠ none ∧ ¬ Holds book item
  | .erase item => Holds book item
  | .replace item _ => Holds book item
  | .clear => True

/-- An allowed change leads from one book to the next. -/
def Step (before : Pages Key Name Item Value) (change : Change Key Name Item Value)
    (after : Pages Key Name Item Value) : Prop :=
  change.Allowed before ∧ after = change.apply before

/-- The change is one of the page under a key. -/
def on (book : Pages Key Name Item Value) (key : Key) : Change Key Name Item Value → Bool
  | .insert target _ => decide (target = key)
  | .rename target _ => decide (target = key)
  | .remove target => decide (target = key)
  | .append target _ _ => decide (target = key)
  | .erase item => (book key).any fun page => decide (item ∈ page.items)
  | .replace item _ => (book key).any fun page => decide (item ∈ page.items)
  | .clear => true

variable {book : Pages Key Name Item Value} {key : Key} {change : Change Key Name Item Value}

theorem ne_of_absent {item : Item} {page : Page Name Item Value}
    (absent : (some page).any (fun page => decide (item ∈ page.items)) = false) :
    ∀ entry ∈ page.entries, entry.1 ≠ item := by
  rintro entry member rfl
  have present : entry.1 ∈ page.items := List.mem_map_of_mem member
  simp [present] at absent

/-- A change of another page leaves a page as it is. -/
theorem onPage_of_not_on (other : change.on book key = false) :
    change.onPage key (book key) = book key := by
  cases change with
  | insert target page => exact if_neg (of_decide_eq_false other)
  | rename target name => exact if_neg (of_decide_eq_false other)
  | remove target => exact if_neg (of_decide_eq_false other)
  | append target item value => exact if_neg (of_decide_eq_false other)
  | erase item =>
      rw [on] at other
      cases found : book key with
      | none => rfl
      | some page =>
          rw [found] at other
          have kept := List.filter_eq_self.mpr fun entry member =>
            decide_eq_true (ne_of_absent other entry member)
          rw [onPage, Option.map_some, kept]
  | replace item value =>
      rw [on] at other
      cases found : book key with
      | none => rfl
      | some page =>
          rw [found] at other
          have kept : page.entries.map (replaced item value) = page.entries.map id :=
            List.map_congr_left fun entry member => if_neg (ne_of_absent other entry member)
          rw [onPage, Option.map_some, kept, List.map_id]
  | clear => exact absurd other (by simp [on])

end Change

open Change

variable [DecidableEq Key] [DecidableEq Item]

/-- The changes of a run that were changes of the page under a key. -/
def changesOn (key : Key)
    (history : List (Performed (Pages Key Name Item Value) (Change Key Name Item Value))) :
    List (Change Key Name Item Value) :=
  (history.filter fun performed => performed.action.on performed.before key).map Performed.action

/-- A page is what its own changes have made of it, in their order. -/
theorem page_eq {start book : Pages Key Name Item Value}
    {history : List (Performed (Pages Key Name Item Value) (Change Key Name Item Value))}
    (runs : Runs Change.Step start history book) (key : Key) :
    book key = (changesOn key history).foldl (fun page? change => change.onPage key page?)
      (start key) := by
  induction runs with
  | initial => rfl
  | @step earlier before change after prior transition ih =>
      obtain ⟨-, rfl⟩ := transition
      rw [changesOn, List.filter_append, List.map_append, List.foldl_append, ← changesOn, ← ih]
      cases on : change.on before key with
      | true => simp [on, Change.apply]
      | false => simp [on, Change.apply, onPage_of_not_on on]

end Book
