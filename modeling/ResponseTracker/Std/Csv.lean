import Mathlib.Data.List.Basic

/-!
# Reading comma-separated records

A reader of RFC 4180 as a state machine. Fields are separated by commas and
records by line breaks, LF or CRLF. A field that begins with a quote runs to its
closing quote, and a doubled quote in it stands for one; elsewhere a quote is an
error, as is a CR without LF. Empty lines are ignored.

`read_lines_iff` characterizes reading records that were written without
quoting: they are read back exactly if all their fields are plain. A field that
begins with a quote is no exception, because no text is its own escaped form
(`escape_append_ne`).
-/

namespace Csv

/-- The text of a field. -/
abbrev Field := List Char
/-- The fields of a line. -/
abbrev Record := List Field

/-- Where the reader stands: at the beginning of a record or of a later field,
inside a field, behind a quote that may close a field, behind the CR of a line
break that ends a record, or of an empty line. -/
inductive Mode where
  | start
  | field
  | unquoted
  | quoted
  | closed
  | cr
  | blank

/-- What a character means for the records read. -/
inductive Event where
  | skip
  | put (character : Char)
  | endField
  | endRecord

/-- The records that begin before an event, from those that begin after it. -/
def Event.apply : Event → List Record → List Record
  | .skip, records => records
  | .put character, (field :: fields) :: records => ((character :: field) :: fields) :: records
  | .put _, records => records
  | .endField, record :: records => ([] :: record) :: records
  | .endField, [] => []
  | .endRecord, records => [[]] :: records

/-- The end of a field. -/
def delimiter (character : Char) : Option (Event × Mode) :=
  if character = ',' then some (.endField, .field)
  else if character = '\n' then some (.endRecord, .start)
  else if character = '\r' then some (.skip, .cr)
  else none

/-- A character inside a field without quotes. -/
def inside (character : Char) : Option (Event × Mode) :=
  if character = '"' then none else some ((delimiter character).getD (.put character, .unquoted))

/-- The first character of a field, or its end. -/
def opening (character : Char) : Option (Event × Mode) :=
  if character = '"' then some (.skip, .quoted) else inside character

/-- What a character means where the reader stands; `none` where it is not allowed. -/
def step : Mode → Char → Option (Event × Mode)
  | .start, character =>
      if character = '\n' then some (.skip, .start)
      else if character = '\r' then some (.skip, .blank)
      else opening character
  | .field, character => opening character
  | .unquoted, character => inside character
  | .quoted, character =>
      if character = '"' then some (.skip, .closed) else some (.put character, .quoted)
  | .closed, character => if character = '"' then some (.put '"', .quoted) else delimiter character
  | .cr, character => if character = '\n' then some (.endRecord, .start) else none
  | .blank, character => if character = '\n' then some (.skip, .start) else none

/-- The records at the end of the text. -/
def finish : Mode → Option (List Record)
  | .start => some []
  | .field | .unquoted | .closed => some [[[]]]
  | .quoted | .cr | .blank => none

/-- The records of a text, of which the first is what is left of the current one. -/
def read : Mode → List Char → Option (List Record)
  | mode, [] => finish mode
  | mode, character :: rest => do
      let (event, next) ← step mode character
      let records ← read next rest
      some (event.apply records)

/-- The records of a text. -/
def readText (text : String) : Option (List (List String)) :=
  (read .start text.toList).map fun records => records.map fun record => record.map String.ofList

/-- Not one of the characters with a meaning of their own. -/
def Ordinary (character : Char) : Prop :=
  character ≠ ',' ∧ character ≠ '"' ∧ character ≠ '\n' ∧ character ≠ '\r'

instance : DecidablePred Ordinary := fun character =>
  inferInstanceAs
    (Decidable (character ≠ ',' ∧ character ≠ '"' ∧ character ≠ '\n' ∧ character ≠ '\r'))

/-- A field that reads as it is written. -/
def Plain (field : Field) : Prop := ∀ character ∈ field, Ordinary character

instance : DecidablePred Plain := fun field => List.decidableBAll Ordinary field

/-- A field with its quotes doubled. -/
def escape (field : Field) : Field :=
  field.flatMap fun character => if character = '"' then ['"', '"'] else [character]

/-- The text of a record without quoting, in one line. -/
def line : Record → List Char
  | [] => ['\n']
  | [field] => field ++ ['\n']
  | field :: next :: fields => field ++ ',' :: line (next :: fields)

/-! ## Single characters -/

section Characters

variable {mode next : Mode} {event : Event} {character : Char} {rest : List Char}
  {field : Field} {fields : Record} {records after : List Record}

/-- A first field that a character was put to begins with it. -/
theorem put_eq_iff : (Event.put character).apply after = (field :: fields) :: records ↔
    ∃ others, field = character :: others ∧ after = (others :: fields) :: records := by
  constructor
  · intro same
    match after with
    | [] => exact absurd same (by simp [Event.apply])
    | [] :: others => exact absurd same (by simp [Event.apply])
    | (first :: others) :: more =>
        simp only [Event.apply, List.cons.injEq] at same
        obtain ⟨⟨rfl, rfl⟩, rfl⟩ := same
        exact ⟨first, rfl, rfl⟩
  · rintro ⟨others, rfl, rfl⟩
    rfl

/-- A field that has ended leaves an empty one before the others. -/
theorem endField_eq_iff : Event.endField.apply after = (field :: fields) :: records ↔
    field = [] ∧ after = fields :: records := by
  cases after with
  | nil => simp [Event.apply]
  | cons record others => simp [Event.apply, and_assoc, eq_comm]

/-- A record that has ended leaves one of an empty field before the others. -/
theorem endRecord_eq_iff : Event.endRecord.apply after = (field :: fields) :: records ↔
    field = [] ∧ fields = [] ∧ after = records := by
  simp [Event.apply, and_assoc, eq_comm]

/-- Reading a text is reading its first character. -/
theorem read_cons (steps : step mode character = some (event, next)) :
    read mode (character :: rest) = (read next rest).map event.apply := by
  simp only [read, steps, Option.bind_eq_bind, Option.bind_some]
  exact (Option.map_eq_bind).symm

/-- A character that is not allowed makes the text unreadable. -/
theorem read_cons_of_none (stuck : step mode character = none) :
    read mode (character :: rest) = none := by
  simp [read, stuck]

/-- Every character that is not ordinary is one of four. -/
theorem character_cases (character : Char) :
    character = '"' ∨ character = ',' ∨ character = '\n' ∨ character = '\r' ∨
      Ordinary character := by
  unfold Ordinary
  tauto

/-- An ordinary character is put to the field. -/
theorem inside_ordinary (ordinary : Ordinary character) :
    inside character = some (.put character, .unquoted) := by
  obtain ⟨notComma, notQuote, notLine, notReturn⟩ := ordinary
  simp [inside, delimiter, notComma, notQuote, notLine, notReturn]

/-- Except at a quote, a field is read from its beginning like from its inside. -/
theorem read_field_of_ne (different : character ≠ '"') :
    read .field (character :: rest) = read .unquoted (character :: rest) := by
  simp [read, step, opening, different]

/-- Except at a line break, a record is read like a field. -/
theorem read_start_of_ne (notLine : character ≠ '\n') (notReturn : character ≠ '\r') :
    read .start (character :: rest) = read .field (character :: rest) := by
  simp [read, step, notLine, notReturn]

end Characters

/-! ## What is read is plain or was escaped -/

section Emitted

variable {text : List Char} {field : Field} {fields : Record} {records : List Record}

/-- Behind the CR of a line break the field has ended. -/
theorem read_cr (reads : read .cr text = some ((field :: fields) :: records)) : field = [] := by
  cases text with
  | nil => exact absurd reads (by simp [read, finish])
  | cons character rest =>
      by_cases line : character = '\n'
      · subst line
        rw [read_cons rfl, Option.map_eq_some_iff] at reads
        obtain ⟨after, -, applied⟩ := reads
        exact (endRecord_eq_iff.mp applied).1
      · rw [read_cons_of_none (by simp [step, line])] at reads
        exact absurd reads (by simp)

/-- A character that ends a field leaves nothing of it. -/
theorem read_delimiter {event : Event} {next : Mode} (character : Char)
    (ends : delimiter character = some (event, next))
    (reads : (read next text).map event.apply = some ((field :: fields) :: records)) :
    field = [] := by
  obtain ⟨after, found, applied⟩ := Option.map_eq_some_iff.mp reads
  unfold delimiter at ends
  split at ends
  · obtain ⟨rfl, rfl⟩ := Prod.mk.inj (Option.some.inj ends)
    exact (endField_eq_iff.mp applied).1
  · split at ends
    · obtain ⟨rfl, rfl⟩ := Prod.mk.inj (Option.some.inj ends)
      exact (endRecord_eq_iff.mp applied).1
    · split at ends
      · obtain ⟨rfl, rfl⟩ := Prod.mk.inj (Option.some.inj ends)
        obtain rfl : after = (field :: fields) :: records := applied
        exact read_cr found
      · exact absurd ends (by simp)

/-- A field without quotes is plain. -/
theorem plain_of_unquoted (reads : read .unquoted text = some ((field :: fields) :: records)) :
    Plain field := by
  have nothing : ∀ other : Field, other = [] → Plain other := by
    rintro _ rfl character member
    exact absurd member List.not_mem_nil
  induction text generalizing field with
  | nil =>
      simp only [read, finish, Option.some.injEq, List.cons.injEq] at reads
      exact nothing field reads.1.1.symm
  | cons character rest ih =>
      rcases character_cases character with rfl | rfl | rfl | rfl | ordinary
      · rw [read_cons_of_none rfl] at reads
        exact absurd reads (by simp)
      · rw [read_cons rfl] at reads
        exact nothing field (read_delimiter ',' rfl reads)
      · rw [read_cons rfl] at reads
        exact nothing field (read_delimiter '\n' rfl reads)
      · rw [read_cons rfl] at reads
        exact nothing field (read_delimiter '\r' rfl reads)
      · have put : step .unquoted character = some (.put character, .unquoted) :=
          inside_ordinary ordinary
        rw [read_cons put, Option.map_eq_some_iff] at reads
        obtain ⟨after, found, applied⟩ := reads
        obtain ⟨others, rfl, rfl⟩ := put_eq_iff.mp applied
        intro other member
        rcases List.mem_cons.mp member with rfl | later
        · exact ordinary
        · exact ih found other later

/-- An empty field needs no escape. -/
@[simp] theorem escape_nil : escape [] = [] := rfl

/-- Fields are escaped character by character. -/
theorem escape_append (first next : Field) : escape (first ++ next) = escape first ++ escape next :=
  List.flatMap_append

/-- A quote is doubled. -/
theorem escape_quote (others : Field) : escape ('"' :: others) = '"' :: '"' :: escape others := rfl

/-- Every character but a quote stays. -/
theorem escape_of_ne {character : Char} (different : character ≠ '"') (others : Field) :
    escape (character :: others) = character :: escape others := by
  simp [escape, different]

/-- A field in quotes was escaped, and a quote followed it. Behind a quote that
may close it, either it has ended or the quote was a doubled one. -/
theorem escaped_of_quoted :
    (∀ field, read .quoted text = some ((field :: fields) :: records) →
      ∃ tail, text = escape field ++ '"' :: tail) ∧
    (∀ field, read .closed text = some ((field :: fields) :: records) →
      field = [] ∨ ∃ others tail,
        field = '"' :: others ∧ text = '"' :: (escape others ++ '"' :: tail)) := by
  induction text with
  | nil =>
      refine ⟨fun field reads => absurd reads (by simp [read, finish]), fun field reads => .inl ?_⟩
      simp only [read, finish, Option.some.injEq, List.cons.injEq] at reads
      exact reads.1.1.symm
  | cons character rest ih =>
      obtain ⟨quoted, closed⟩ := ih
      by_cases quote : character = '"'
      · subst quote
        refine ⟨fun field reads => ?_, fun field reads => ?_⟩
        · rw [read_cons rfl, Option.map_eq_some_iff] at reads
          obtain ⟨after, found, rfl⟩ := reads
          rcases closed field found with rfl | ⟨others, tail, rfl, rfl⟩
          · exact ⟨rest, rfl⟩
          · exact ⟨tail, rfl⟩
        · rw [read_cons rfl, Option.map_eq_some_iff] at reads
          obtain ⟨after, found, applied⟩ := reads
          obtain ⟨others, rfl, rfl⟩ := put_eq_iff.mp applied
          obtain ⟨tail, rfl⟩ := quoted others found
          exact .inr ⟨others, tail, rfl, rfl⟩
      · have put : step .quoted character = some (.put character, .quoted) := if_neg quote
        have ends : step .closed character = delimiter character := if_neg quote
        refine ⟨fun field reads => ?_, fun field reads => ?_⟩
        · rw [read_cons put, Option.map_eq_some_iff] at reads
          obtain ⟨after, found, applied⟩ := reads
          obtain ⟨others, rfl, rfl⟩ := put_eq_iff.mp applied
          obtain ⟨tail, rfl⟩ := quoted others found
          exact ⟨tail, by rw [escape_of_ne quote]; rfl⟩
        · cases delimits : delimiter character with
          | none =>
              rw [read_cons_of_none (ends.trans delimits)] at reads
              exact absurd reads (by simp)
          | some taken =>
              rw [read_cons (ends.trans delimits)] at reads
              exact .inl (read_delimiter character delimits reads)

/-- Escaping leaves something of a field. -/
theorem escape_ne_nil {field : Field} (some' : field ≠ []) : escape field ≠ [] := by
  cases field with
  | nil => exact absurd rfl some'
  | cons character rest =>
      by_cases quote : character = '"'
      · subst quote
        simp [escape_quote]
      · simp [escape_of_ne quote]

/-- Escaping brings in no separator. -/
theorem notMem_escape {separator : Char} {field : Field} (different : separator ≠ '"')
    (absent : separator ∉ field) : separator ∉ escape field := by
  intro member
  obtain ⟨character, inField, written⟩ := List.mem_flatMap.mp member
  split at written
  · simp [different] at written
  · exact absent (List.mem_singleton.mp written ▸ inField)

/-- No text goes on as its own escaped form does behind something else. A
separator that ends the text, and that is absent before it, tells them apart. -/
theorem escape_append_ne {separator : Char} (different : separator ≠ '"') {before field : Field}
    (begun : before ≠ []) (absent : separator ∉ before) (tail rest : List Char) :
    before ++ (escape field ++ tail) ≠ field ++ separator :: rest := by
  -- The field begins with what is before it, which leaves a shorter field
  -- behind the escaped form of the same.
  have first : ∀ (list more : List Char), list ≠ [] → separator ∉ list →
      separator :: rest ≠ list ++ more := by
    intro list more nonempty away same
    cases list with
    | nil => exact nonempty rfl
    | cons character others =>
        exact away ((List.cons.inj same).1 ▸ List.mem_cons_self)
  induction size : field.length using Nat.strongRecOn generalizing before field with
  | ind bound ih =>
      intro same
      rcases List.append_eq_append_iff.mp same with ⟨left, rfl, shorter⟩ | ⟨extra, rfl, overlap⟩
      · have fewer : left.length < bound := by
          have positive := List.length_pos_iff.mpr begun
          rw [List.length_append] at size
          omega
        rw [escape_append, List.append_assoc] at shorter
        exact ih left.length fewer (escape_ne_nil begun) (notMem_escape different absent) rfl
          shorter
      · cases extra with
        | nil =>
            rw [List.append_nil] at begun absent
            exact first _ _ (escape_ne_nil begun) (notMem_escape different absent) overlap
        | cons character others =>
            apply first (character :: others) _ (by simp) _ overlap
            exact fun member => absent (List.mem_append_right _ member)

/-- A field that is read as it was written is plain, also when empty lines
before it were skipped. -/
theorem plain_of_read (skipped : List Char) (separator : Char) {rest : List Char}
    (different : separator ≠ '"') (absent : separator ∉ skipped)
    (split : field ++ separator :: rest = skipped ++ text)
    (reads : read .field text = some ((field :: fields) :: records)) : Plain field := by
  cases text with
  | nil =>
      simp only [read, finish, Option.some.injEq, List.cons.injEq] at reads
      rw [← reads.1.1]
      exact fun character member => absurd member List.not_mem_nil
  | cons character more =>
      by_cases quote : character = '"'
      · -- The escaped form of the field would follow a quote within the field.
        subst quote
        rw [read_cons rfl, Option.map_eq_some_iff] at reads
        obtain ⟨after, found, rfl⟩ := reads
        obtain ⟨tail, rfl⟩ := escaped_of_quoted.1 field found
        exfalso
        rcases List.append_eq_append_iff.mp split with ⟨extra, rfl, rest'⟩ | ⟨within, rfl, rest'⟩
        · cases extra with
          | nil => exact different (List.cons.inj rest').1
          | cons first others => exact absent (by simp [(List.cons.inj rest').1])
        · cases within with
          | nil => exact different (List.cons.inj rest').1.symm
          | cons first others =>
              obtain ⟨rfl, shorter⟩ := List.cons.inj rest'
              have apart : separator ∉ skipped ++ ['"'] := by simp [absent, different]
              rw [← List.singleton_append, ← List.append_assoc, escape_append, List.append_assoc]
                at shorter
              exact escape_append_ne different (escape_ne_nil (by simp))
                (notMem_escape different apart) _ _ shorter
      · rw [read_field_of_ne quote] at reads
        exact plain_of_unquoted reads

end Emitted

/-! ## Fields, records and texts -/

section Written

variable {field : Field} {fields : Record} {rest : List Char} {records : List Record}

/-- A plain field without quotes ends at a comma. -/
theorem read_unquoted_comma (plain : Plain field) :
    read .unquoted (field ++ ',' :: rest) = some ((field :: fields) :: records) ↔
      read .field rest = some (fields :: records) := by
  induction field with
  | nil =>
      rw [List.nil_append, read_cons rfl, Option.map_eq_some_iff]
      simp [endField_eq_iff]
  | cons character others ih =>
      have put : step .unquoted character = some (.put character, .unquoted) :=
        inside_ordinary (plain character List.mem_cons_self)
      rw [← ih fun other member => plain other (List.mem_cons_of_mem _ member), List.cons_append,
        read_cons put, Option.map_eq_some_iff]
      simp [put_eq_iff]

/-- A plain field without quotes ends at a line break with its record. -/
theorem read_unquoted_line (plain : Plain field) :
    read .unquoted (field ++ '\n' :: rest) = some ((field :: fields) :: records) ↔
      fields = [] ∧ read .start rest = some records := by
  induction field with
  | nil =>
      rw [List.nil_append, read_cons rfl, Option.map_eq_some_iff]
      simp only [endRecord_eq_iff, true_and, exists_eq_right_right]
      exact and_comm
  | cons character others ih =>
      have put : step .unquoted character = some (.put character, .unquoted) :=
        inside_ordinary (plain character List.mem_cons_self)
      rw [← ih fun other member => plain other (List.mem_cons_of_mem _ member), List.cons_append,
        read_cons put, Option.map_eq_some_iff]
      simp [put_eq_iff]

/-- A plain field is read from its beginning like from its inside. -/
theorem read_field_plain {separator : Char} (different : separator ≠ '"') (plain : Plain field) :
    read .field (field ++ separator :: rest) = read .unquoted (field ++ separator :: rest) := by
  cases field with
  | nil => exact read_field_of_ne different
  | cons character others => exact read_field_of_ne (plain character List.mem_cons_self).2.1

/-- Written before a comma, a field is read back exactly if it is plain. -/
theorem read_field_comma_iff :
    read .field (field ++ ',' :: rest) = some ((field :: fields) :: records) ↔
      Plain field ∧ read .field rest = some (fields :: records) := by
  constructor
  · intro reads
    have plain := plain_of_read [] ',' (by decide) List.not_mem_nil (List.nil_append _).symm reads
    rw [read_field_plain (by decide) plain, read_unquoted_comma plain] at reads
    exact ⟨plain, reads⟩
  · rintro ⟨plain, reads⟩
    rwa [read_field_plain (by decide) plain, read_unquoted_comma plain]

/-- Written before a line break, a field is read back exactly if it is plain. -/
theorem read_field_line_iff :
    read .field (field ++ '\n' :: rest) = some ((field :: fields) :: records) ↔
      Plain field ∧ fields = [] ∧ read .start rest = some records := by
  constructor
  · intro reads
    have plain := plain_of_read [] '\n' (by decide) List.not_mem_nil (List.nil_append _).symm reads
    rw [read_field_plain (by decide) plain, read_unquoted_line plain] at reads
    exact ⟨plain, reads⟩
  · rintro ⟨plain, reads⟩
    rwa [read_field_plain (by decide) plain, read_unquoted_line plain]

/-- What is read of a text is read behind line breaks that begin it. -/
def Skips (text : List Char) (records : List Record) : Prop :=
  ∃ skipped more, text = skipped ++ more ∧
    (∀ character ∈ skipped, character = '\n' ∨ character = '\r') ∧
    read .field more = some records

/-- One more line break is skipped. -/
theorem Skips.cons {character : Char} {text : List Char}
    (lineBreak : character = '\n' ∨ character = '\r') (skips : Skips text records) :
    Skips (character :: text) records := by
  obtain ⟨skipped, more, rfl, breaks, found⟩ := skips
  refine ⟨character :: skipped, more, rfl, ?_, found⟩
  intro other member
  rcases List.mem_cons.mp member with rfl | later
  · exact lineBreak
  · exact breaks other later

/-- Before a record the reader skips line breaks. -/
theorem skips_of_start {text : List Char} {record : Record} :
    (read .start text = some (record :: records) → Skips text (record :: records)) ∧
    (read .blank text = some (record :: records) → Skips text (record :: records)) := by
  induction text with
  | nil => exact ⟨by simp [read, finish], by simp [read, finish]⟩
  | cons character others ih =>
      obtain ⟨start, blank⟩ := ih
      by_cases newline : character = '\n'
      · subst newline
        refine ⟨fun reads => ?_, fun reads => ?_⟩
        · rw [read_cons rfl, Option.map_eq_some_iff] at reads
          obtain ⟨after, found, rfl⟩ := reads
          exact (start found).cons (.inl rfl)
        · rw [read_cons rfl, Option.map_eq_some_iff] at reads
          obtain ⟨after, found, rfl⟩ := reads
          exact (start found).cons (.inl rfl)
      · refine ⟨fun reads => ?_, fun reads => ?_⟩
        · by_cases carriage : character = '\r'
          · subst carriage
            rw [read_cons rfl, Option.map_eq_some_iff] at reads
            obtain ⟨after, found, rfl⟩ := reads
            exact (blank found).cons (.inr rfl)
          · rw [read_start_of_ne newline carriage] at reads
            exact ⟨[], _, rfl, by simp, reads⟩
        · have stuck : step .blank character = none := if_neg newline
          rw [read_cons_of_none stuck] at reads
          exact absurd reads (by simp)

/-- A plain field at the beginning of a record leaves nothing to skip. -/
theorem read_start_plain (plain : Plain field) :
    read .start (field ++ ',' :: rest) = read .field (field ++ ',' :: rest) := by
  cases field with
  | nil => exact read_start_of_ne (by decide) (by decide)
  | cons character others =>
      obtain ⟨-, -, notLine, notReturn⟩ := plain character List.mem_cons_self
      exact read_start_of_ne notLine notReturn

/-- Written before a comma, the first field of a record is read back exactly if it is plain. -/
theorem read_start_comma_iff :
    read .start (field ++ ',' :: rest) = some ((field :: fields) :: records) ↔
      Plain field ∧ read .field rest = some (fields :: records) := by
  constructor
  · intro reads
    obtain ⟨skipped, more, split, breaks, found⟩ := skips_of_start.1 reads
    have absent : ',' ∉ skipped := fun member => absurd (breaks ',' member) (by decide)
    have plain := plain_of_read skipped ',' (by decide) absent split found
    rw [read_start_plain plain] at reads
    exact read_field_comma_iff.mp reads
  · rintro ⟨plain, reads⟩
    rw [read_start_plain plain]
    exact read_field_comma_iff.mpr ⟨plain, reads⟩

/-- The fields that are left of a record are read back exactly if they are plain. -/
theorem read_field_fields_iff :
    read .field (line (field :: fields) ++ rest) = some ((field :: fields) :: records) ↔
      (∀ written ∈ field :: fields, Plain written) ∧ read .start rest = some records := by
  induction fields generalizing field with
  | nil =>
      rw [line, List.append_assoc, List.singleton_append, read_field_line_iff,
        List.forall_mem_singleton]
      simp
  | cons next others ih =>
      rw [line, List.append_assoc, List.cons_append, read_field_comma_iff, ih]
      simp only [List.forall_mem_cons, and_assoc]

/-- A record of at least two fields is read back exactly if they are plain. -/
theorem read_line_iff {record : Record} (wide : 2 ≤ record.length) :
    read .start (line record ++ rest) = some (record :: records) ↔
      (∀ written ∈ record, Plain written) ∧ read .start rest = some records := by
  match record with
  | first :: next :: others =>
      rw [line, List.append_assoc, List.cons_append, read_start_comma_iff, read_field_fields_iff]
      simp only [List.forall_mem_cons, and_assoc]

/-- Records of at least two fields, written without quoting, are read back
exactly if all their fields are plain. -/
theorem read_lines_iff {written : List Record} (wide : ∀ record ∈ written, 2 ≤ record.length) :
    read .start (written.flatMap line ++ rest) = some (written ++ records) ↔
      (∀ record ∈ written, ∀ field ∈ record, Plain field) ∧ read .start rest = some records := by
  induction written with
  | nil => simp
  | cons record others ih =>
      rw [List.flatMap_cons, List.append_assoc, List.cons_append,
        read_line_iff (wide record List.mem_cons_self),
        ih fun other member => wide other (List.mem_cons_of_mem _ member),
        List.forall_mem_cons, and_assoc]

/-- An empty line is ignored. -/
theorem read_emptyLine : read .start ('\n' :: rest) = read .start rest := by
  rw [read_cons rfl]
  cases read .start rest <;> rfl

/-- What a whole text is read as. -/
theorem readText_eq_some_iff {text : String} {written : List (List String)} :
    readText text = some written ↔
      read .start text.toList = some (written.map fun record => record.map String.toList) := by
  rw [readText, Option.map_eq_some_iff]
  constructor
  · rintro ⟨found, reads, rfl⟩
    simpa [Function.comp_def] using reads
  · intro reads
    refine ⟨_, reads, ?_⟩
    simp [Function.comp_def]

/-- Quoted fields, an empty line and a last record without a line break. -/
example : read .start "a,\"x\"\"y\"\r\n\nb,".toList =
    some [["a".toList, "x\"y".toList], ["b".toList, []]] := by
  decide

end Written
end Csv
