import AiOffice.Domain.IsoDate
import AiOffice.Storage.Cost.Effects
import AiOffice.Transition.Run

namespace AiOffice.Storage.Cost

open Data Data.Outcome Domain Domain.IsoDate Transition

/-- A pricing version as it is to be saved. An effective date is missing when it is an invalid `Date`. -/
structure SavePricingInput where
  id : String
  provider : String
  model : String
  currency : Currency
  inputPerMillionMicros : Int
  cachedInputPerMillionMicros : Int
  outputPerMillionMicros : Int
  reasoningPerMillionMicros : Int
  effectiveFrom : Option Date
  effectiveTo : Option (Option Date)

/-- A row of `pricing_version`. Its times are texts, and are compared as texts. -/
structure PricingRow where
  id : String
  provider : String
  model : String
  currency : Currency
  inputPerMillionMicros : Nat
  cachedInputPerMillionMicros : Nat
  outputPerMillionMicros : Nat
  reasoningPerMillionMicros : Nat
  effectiveFrom : String
  effectiveTo : Option String
  createdAt : String
  deriving DecidableEq

def pricingOverlap (provider model : String) : Thrown :=
  ⟨.pricingOverlapError, s!"Pricing interval overlaps for {provider}/{model}"⟩

def intervalOverlaps : Thrown := ⟨.storageError, "pricing interval overlaps an existing version"⟩

def invalidDate : Thrown := ⟨.rangeError, "Invalid Date"⟩

def dateText (date : Option Date) : Except Thrown String :=
  match date.filter validTime with
  | none => .error invalidDate
  | some time => .ok (toISOString time)

def openEnd : String := "9999-12-31T23:59:59.999Z"

namespace PricingRow

def rivals (row other : PricingRow) : Bool :=
  row.provider = other.provider && row.model = other.model && row.currency = other.currency

def overlaps (row other : PricingRow) : Bool :=
  row.rivals other && decide (other.effectiveFrom < row.effectiveTo.getD openEnd) &&
    decide (row.effectiveFrom < other.effectiveTo.getD openEnd)

end PricingRow

def closes (input : SavePricingInput) (start : String) (row : PricingRow) : Bool :=
  row.provider = input.provider && row.model = input.model && row.currency = input.currency &&
    row.effectiveTo.isNone && decide (row.effectiveFrom < start)

/-- The update, row by row with its trigger: the rows that are done, and those that are left. -/
def closeOpen (input : SavePricingInput) (start : String) :
    List PricingRow → List PricingRow → Except Thrown (List PricingRow)
  | done, [] => .ok done
  | done, row :: rows =>
    if closes input start row then
      let closed := { row with effectiveTo := some start }
      if (done ++ row :: rows).any fun other => other.id ≠ closed.id && other.overlaps closed then
        .error intervalOverlaps
      else closeOpen input start (done ++ [closed]) rows
    else closeOpen input start (done ++ [row]) rows

def insertPricing (input : SavePricingInput) (createdAt : Option Date) (rows : List PricingRow) :
    Except Thrown (List PricingRow) := do
  let inputMicros ← safe input.inputPerMillionMicros
  let cachedMicros ← safe input.cachedInputPerMillionMicros
  let outputMicros ← safe input.outputPerMillionMicros
  let reasoningMicros ← safe input.reasoningPerMillionMicros
  let effectiveFrom ← dateText input.effectiveFrom
  let effectiveTo ← input.effectiveTo.mapM dateText
  let created ← dateText createdAt
  let row : PricingRow := ⟨input.id, input.provider, input.model, input.currency, inputMicros, cachedMicros,
    outputMicros, reasoningMicros, effectiveFrom, effectiveTo, created⟩
  if rows.any fun other => other.overlaps row then .error intervalOverlaps
  else if rows.any fun other => other.id = row.id then .error (constraintFailed "UNIQUE")
  else if rows.any fun other =>
      other.provider = row.provider && other.model = row.model && other.effectiveFrom = row.effectiveFrom then
    .error (constraintFailed "UNIQUE")
  else return rows ++ [row]

/-- The work of a transaction: what it answers, and the rows as its statements left them. -/
abbrev PricingWork := List PricingRow → Except Thrown Unit × List PricingRow

def immediate (work : PricingWork) : PricingWork := fun rows =>
  match work rows with
  | (.ok (), after) => (.ok (), after)
  | (.error thrown, _) => (.error thrown, rows)

def saveWork (input : SavePricingInput) (createdAt : Option Date) : PricingWork := fun rows =>
  if rows.any fun row => row.id = input.id then (.ok (), rows)
  else match dateText input.effectiveFrom with
    | .error thrown => (.error thrown, rows)
    | .ok start => match closeOpen input start [] rows with
      | .error thrown => (.error thrown, rows)
      | .ok closed => match insertPricing input createdAt closed with
        | .error thrown => (.error thrown, closed)
        | .ok after => (.ok (), after)

def endsBeforeStart (input : SavePricingInput) : Bool :=
  match input.effectiveFrom, input.effectiveTo with
  | some effectiveFrom, some (some effectiveTo) => effectiveTo ≤ effectiveFrom
  | _, _ => false

def savePricing (input : SavePricingInput) (createdAt : Option Date) : PricingWork := fun rows =>
  if endsBeforeStart input then (.error (pricingOverlap input.provider input.model), rows)
  else match immediate (saveWork input createdAt) rows with
    | (.ok (), after) => (.ok (), after)
    | (.error thrown, after) =>
      (.error (if includes thrown.message "pricing interval overlaps" then
        pricingOverlap input.provider input.model else thrown), after)

/-- The rows that a lookup selects from, before it takes the one that became effective last. -/
def effectiveRows (provider model moment : String) (rows : List PricingRow) : List PricingRow :=
  rows.filter fun row => row.provider = provider && row.model = model && decide (row.effectiveFrom ≤ moment) &&
    row.effectiveTo.all fun effectiveTo => decide (moment < effectiveTo)

abbrev SaveAttempt := SavePricingInput × Option Date

def Saves (before : List PricingRow) (attempt : SaveAttempt) (after : List PricingRow) : Prop :=
  after = (savePricing attempt.1 attempt.2 before).2

def readColumn (text : String) : Option Date := readDate text.toList

def PricingRow.Covers (row : PricingRow) (time : Date) : Prop :=
  (∃ start, readColumn row.effectiveFrom = some start ∧ start ≤ time) ∧
    ∀ text, row.effectiveTo = some text → ∃ stop, readColumn text = some stop ∧ time < stop

/-- The intervals of a provider, model and currency have no time in common. -/
def DisjointIntervals (rows : List PricingRow) : Prop :=
  rows.Pairwise fun row other => row.rivals other = true → ∀ time, ¬(row.Covers time ∧ other.Covers time)

def SingleLookups (rows : List PricingRow) : Prop :=
  ∀ provider model moment currency,
    ((effectiveRows provider model moment rows).filter fun row => row.currency = currency).length ≤ 1

/-- The interval starts in a year of four digits and before the end of the last one, and ends by then or is open. -/
def WithinPlainYears (input : SavePricingInput) : Prop :=
  (∀ start, input.effectiveFrom = some start → firstPlainTime ≤ start ∧ start < lastPlainTime) ∧
    ∀ stop, input.effectiveTo = some (some stop) → stop ≤ lastPlainTime

variable {input : SavePricingInput} {createdAt : Option Date} {start : String} {rows before after : List PricingRow}
  {row other : PricingRow} {time : Date}

theorem savePricing_rejected {thrown : Thrown} (rejected : (savePricing input createdAt rows).1 = .error thrown) :
    (savePricing input createdAt rows).2 = rows := by
  unfold savePricing immediate at *
  split at rejected
  · next reversed => rw [if_pos reversed]
  · next ordered =>
      rw [if_neg ordered]
      split at rejected
      · cases rejected
      · next unchanged =>
          split at unchanged
          · cases unchanged
          · cases unchanged
            rfl

theorem saves_ok (saves : Saves rows (input, createdAt) after) :
    after = rows ∨ ∃ start closed, dateText input.effectiveFrom = .ok start ∧ closeOpen input start [] rows = .ok closed ∧
      endsBeforeStart input = false ∧ insertPricing input createdAt closed = .ok after := by
  unfold Saves savePricing at saves
  dsimp only at saves
  split at saves
  · exact .inl saves
  · next ordered =>
      unfold immediate saveWork at saves
      split at saves
      · next saved =>
          split at saved
          · next worked =>
              cases saved
              split at worked
              · cases worked
                exact .inl saves
              · split at worked
                · cases worked
                · next start started =>
                    split at worked
                    · cases worked
                    · next closed closing =>
                        split at worked
                        · cases worked
                        · next inserted =>
                            cases worked
                            subst saves
                            exact .inr ⟨start, closed, started, closing, by simpa using ordered, inserted⟩
          · cases saved
      · next unsaved =>
          split at unsaved
          · cases unsaved
          · cases unsaved
            exact .inl saves

def closeRow (input : SavePricingInput) (start : String) (row : PricingRow) : PricingRow :=
  if closes input start row then { row with effectiveTo := some start } else row

theorem closeOpen_ok {done : List PricingRow} (closed : closeOpen input start done rows = .ok after) :
    after = done ++ rows.map (closeRow input start) := by
  induction rows generalizing done with
  | nil =>
    cases closed
    simp
  | cons row rows ih =>
    unfold closeOpen at closed
    rw [List.map_cons]
    split at closed
    · next closing =>
        obtain ⟨_, closed⟩ := guard_ok closed
        rw [ih closed, closeRow, if_pos closing]
        simp
    · next kept =>
        rw [ih closed, closeRow, if_neg kept]
        simp

theorem rivals_comm : row.rivals other = other.rivals row := by
  simp only [PricingRow.rivals, eq_comm]

theorem overlaps_comm : row.overlaps other = other.overlaps row := by
  unfold PricingRow.overlaps
  rw [rivals_comm, Bool.and_right_comm]

theorem overlaps_closeRow (early : start ≤ openEnd) (overlapping : (closeRow input start row).overlaps other = true) :
    row.overlaps other = true := by
  unfold closeRow at overlapping
  split at overlapping
  · next closing =>
      have unended : row.effectiveTo = none := by
        simp only [closes, Bool.and_eq_true, Option.isNone_iff_eq_none] at closing
        exact closing.1.2
      simp only [PricingRow.overlaps, Bool.and_eq_true, decide_eq_true_eq, unended, Option.getD_none,
        Option.getD_some] at overlapping ⊢
      exact ⟨⟨overlapping.1.1, overlapping.1.2.trans_le early⟩, overlapping.2⟩
  · exact overlapping

def Apart (rows : List PricingRow) : Prop := rows.Pairwise fun row other => row.overlaps other = false

theorem apart_closeRow (early : start ≤ openEnd) (apart : Apart rows) : Apart (rows.map (closeRow input start)) := by
  refine List.pairwise_map.mpr (apart.imp fun {row other} distinct => ?_)
  by_contra overlapping
  rw [Bool.not_eq_false] at overlapping
  have first := overlaps_closeRow early overlapping
  rw [overlaps_comm] at first
  have second := overlaps_closeRow early first
  rw [overlaps_comm, distinct] at second
  cases second

/-- The times of a row have plain years; an interval that is open starts before the end of the last one. -/
structure PlainRow (row : PricingRow) : Prop where
  starts : ∃ start, row.effectiveFrom = toISOString start ∧ firstPlainTime ≤ start ∧ start < lastPlainTime
  stops : ∀ text, row.effectiveTo = some text →
    ∃ stop, text = toISOString stop ∧ firstPlainTime ≤ stop ∧ stop ≤ lastPlainTime

structure Stored (rows : List PricingRow) : Prop where
  plain : ∀ row ∈ rows, PlainRow row
  apart : Apart rows

theorem dateText_ok {date : Option Date} {text : String} (written : dateText date = .ok text) :
    ∃ time, date = some time ∧ text = toISOString time := by
  unfold dateText at written
  split at written
  · cases written
  · next time valid =>
      exact ⟨time, (Option.filter_eq_some_iff.mp valid).1, (Except.ok.inj written).symm⟩

theorem insertPricing_ok (inserted : insertPricing input createdAt rows = .ok after) :
    ∃ row, after = rows ++ [row] ∧ dateText input.effectiveFrom = .ok row.effectiveFrom ∧
      input.effectiveTo.mapM dateText = .ok row.effectiveTo ∧ ∀ other ∈ rows, other.overlaps row = false := by
  obtain ⟨_, _, inserted⟩ := bind_ok inserted
  obtain ⟨_, _, inserted⟩ := bind_ok inserted
  obtain ⟨_, _, inserted⟩ := bind_ok inserted
  obtain ⟨_, _, inserted⟩ := bind_ok inserted
  obtain ⟨effectiveFrom, starts, inserted⟩ := bind_ok inserted
  obtain ⟨effectiveTo, stops, inserted⟩ := bind_ok inserted
  obtain ⟨_, _, inserted⟩ := bind_ok inserted
  obtain ⟨apart, inserted⟩ := guard_ok inserted
  obtain ⟨_, inserted⟩ := guard_ok inserted
  obtain ⟨_, appended⟩ := guard_ok inserted
  have same := Except.ok.inj appended
  subst same
  refine ⟨_, rfl, starts, stops, ?_⟩
  simpa only [List.any_eq_true, not_exists, not_and, Bool.not_eq_true] using apart

theorem openEnd_text : openEnd = toISOString lastPlainTime := by decide

theorem closeRow_plain {start : Int} (low : firstPlainTime ≤ start) (high : start ≤ lastPlainTime)
    (plain : PlainRow row) : PlainRow (closeRow input (toISOString start) row) := by
  unfold closeRow
  split
  · exact ⟨plain.starts, fun text stopped => ⟨start, (Option.some.inj stopped).symm, low, high⟩⟩
  · exact plain

theorem inserted_plain (within : WithinPlainYears input) (ordered : endsBeforeStart input = false)
    (starts : dateText input.effectiveFrom = .ok row.effectiveFrom)
    (stops : input.effectiveTo.mapM dateText = .ok row.effectiveTo) : PlainRow row := by
  obtain ⟨start, given, effectiveFrom⟩ := dateText_ok starts
  obtain ⟨low, high⟩ := within.1 start given
  refine ⟨⟨start, effectiveFrom, low, high⟩, fun text stopped => ?_⟩
  rw [stopped] at stops
  cases limit : input.effectiveTo with
  | none =>
    rw [limit] at stops
    cases stops
  | some date =>
    rw [limit] at stops
    obtain ⟨written, ends, same⟩ := bind_ok stops
    have sameText : written = text := Option.some.inj (Except.ok.inj same)
    obtain ⟨stop, isDate, effectiveTo⟩ := dateText_ok ends
    rw [isDate] at limit
    have later : start < stop := by simpa [endsBeforeStart, given, limit] using ordered
    exact ⟨stop, sameText ▸ effectiveTo, (low.trans_lt later).le, within.2 stop limit⟩

theorem stored_step {attempt : SaveAttempt} (within : WithinPlainYears attempt.1) (stored : Stored before)
    (saves : Saves before attempt after) : Stored after := by
  obtain ⟨input, createdAt⟩ := attempt
  rcases saves_ok saves with rfl | ⟨start, closed, started, closing, ordered, inserted⟩
  · exact stored
  obtain ⟨row, rfl, starts, stops, apart⟩ := insertPricing_ok inserted
  obtain ⟨time, given, text⟩ := dateText_ok started
  obtain ⟨low, high⟩ := within.1 time given
  have early : start ≤ openEnd := by
    rw [openEnd_text, text]
    exact (toISOString_lt low high le_rfl).le
  have closed_eq := closeOpen_ok closing
  rw [List.nil_append] at closed_eq
  subst closed_eq
  constructor
  · intro other member
    rcases List.mem_append.mp member with kept | new
    · obtain ⟨old, stays, rfl⟩ := List.mem_map.mp kept
      rw [text]
      exact closeRow_plain low high.le (stored.plain old stays)
    · rw [List.mem_singleton.mp new]
      exact inserted_plain within ordered starts stops
  · refine List.pairwise_append.mpr ⟨apart_closeRow early stored.apart, List.pairwise_singleton _ _, ?_⟩
    intro other member new inserted
    rw [List.mem_singleton.mp inserted]
    exact apart other member

theorem readColumn_plain {time : Int} (low : firstPlainTime ≤ time) (high : time ≤ lastPlainTime) :
    readColumn (toISOString time) = some time := by
  apply readDate_toISOString
  unfold firstPlainTime at low
  unfold lastPlainTime at high
  have bounds : (-8640000000000000 : Int) ≤ time ∧ time ≤ 8640000000000000 := by omega
  simpa only [validTime, Bool.and_eq_true, decide_eq_true_eq] using bounds

theorem lt_column {time : Int} {text : Option String} (low : firstPlainTime ≤ time) (high : time < lastPlainTime)
    (plain : ∀ written, text = some written →
      ∃ stop, written = toISOString stop ∧ firstPlainTime ≤ stop ∧ stop ≤ lastPlainTime)
    (ends : ∀ written, text = some written → ∃ stop, readColumn written = some stop ∧ time < stop) :
    toISOString time < text.getD openEnd := by
  cases text with
  | none =>
    rw [Option.getD_none, openEnd_text]
    exact toISOString_lt low high le_rfl
  | some written =>
    obtain ⟨stop, rfl, stopLow, stopHigh⟩ := plain written rfl
    obtain ⟨read, column, later⟩ := ends _ rfl
    rw [readColumn_plain stopLow stopHigh] at column
    cases column
    exact toISOString_lt low later stopHigh

theorem covers_overlaps (plain : PlainRow row) (otherPlain : PlainRow other) (rivals : row.rivals other = true)
    (covers : row.Covers time) (otherCovers : other.Covers time) : row.overlaps other = true := by
  obtain ⟨start, text, low, high⟩ := plain.starts
  obtain ⟨otherStart, otherText, otherLow, otherHigh⟩ := otherPlain.starts
  obtain ⟨⟨read, column, started⟩, ends⟩ := covers
  obtain ⟨⟨otherRead, otherColumn, otherStarted⟩, otherEnds⟩ := otherCovers
  rw [text, readColumn_plain low high.le] at column
  cases column
  rw [otherText, readColumn_plain otherLow otherHigh.le] at otherColumn
  cases otherColumn
  -- The later of the two starts lies before both ends.
  have before {stop : String} {limit : Int} (ended : ∃ stopped, readColumn stop = some stopped ∧ time < stopped)
      (begun : limit ≤ time) : ∃ stopped, readColumn stop = some stopped ∧ limit < stopped := by
    obtain ⟨stopped, isStop, later⟩ := ended
    exact ⟨stopped, isStop, begun.trans_lt later⟩
  have first := lt_column otherLow otherHigh plain.stops fun written stopped => before (ends written stopped) otherStarted
  have second := lt_column low high otherPlain.stops fun written stopped => before (otherEnds written stopped) started
  rw [← otherText] at first
  rw [← text] at second
  simp [PricingRow.overlaps, rivals, first, second]

theorem stored_disjoint (stored : Stored rows) : DisjointIntervals rows := by
  refine List.Pairwise.imp_of_mem ?_ stored.apart
  intro row other member otherMember apart rivals time both
  have overlapping := covers_overlaps (stored.plain row member) (stored.plain other otherMember) rivals both.1 both.2
  rw [apart] at overlapping
  cases overlapping

theorem PlainRow.start_lt_openEnd (plain : PlainRow row) : row.effectiveFrom < openEnd := by
  obtain ⟨start, text, low, high⟩ := plain.starts
  rw [text, openEnd_text]
  exact toISOString_lt low high le_rfl

theorem effective_end {moment begun : String} (open_ : begun < openEnd) (passed : begun ≤ moment)
    (ends : (row.effectiveTo.all fun effectiveTo => decide (moment < effectiveTo)) = true) :
    begun < row.effectiveTo.getD openEnd := by
  cases ended : row.effectiveTo with
  | none => exact open_
  | some effectiveTo =>
    rw [ended, Option.all_some, decide_eq_true_eq] at ends
    exact passed.trans_lt ends

theorem stored_lookups (stored : Stored rows) : SingleLookups rows := by
  intro provider model moment currency
  have apart : Apart ((effectiveRows provider model moment rows).filter fun row => row.currency = currency) :=
    (stored.apart.filter _).filter _
  have selected : ∀ row ∈ (effectiveRows provider model moment rows).filter (fun row => row.currency = currency),
      row ∈ rows ∧ row.provider = provider ∧ row.model = model ∧ row.currency = currency ∧ row.effectiveFrom ≤ moment ∧
        (row.effectiveTo.all fun effectiveTo => decide (moment < effectiveTo)) = true := by
    intro row member
    simp only [effectiveRows, List.mem_filter, Bool.and_eq_true, decide_eq_true_eq] at member
    tauto
  match found : (effectiveRows provider model moment rows).filter fun row => row.currency = currency with
  | [] => simp [found]
  | [_] => simp [found]
  | first :: second :: others =>
    rw [found] at apart selected
    obtain ⟨member, ofProvider, ofModel, ofCurrency, begun, ends⟩ := selected first (by simp)
    obtain ⟨otherMember, otherProvider, otherModel, otherCurrency, otherBegun, otherEnds⟩ :=
      selected second (by simp)
    have distinct := (List.pairwise_cons.mp apart).1 second (by simp)
    have overlapping : first.overlaps second = true := by
      simp only [PricingRow.overlaps, PricingRow.rivals, ofProvider, ofModel, ofCurrency, otherProvider, otherModel,
        otherCurrency, decide_true, Bool.and_true, Bool.true_and, Bool.and_eq_true, decide_eq_true_eq]
      exact ⟨effective_end (stored.plain second otherMember).start_lt_openEnd otherBegun ends,
        effective_end (stored.plain first member).start_lt_openEnd begun otherEnds⟩
    rw [distinct] at overlapping
    cases overlapping

/-- In every run of attempts whose intervals stay within the plain years, the stored intervals are disjoint and a
lookup finds at most one price; and a rejected attempt changes nothing. -/
theorem pricing_stays_disjoint {attempts : List SaveAttempt}
    (run : Run (fun before attempt after => WithinPlainYears attempt.1 ∧ Saves before attempt after) [] attempts rows) :
    DisjointIntervals rows ∧ SingleLookups rows ∧ ∀ input createdAt thrown,
      (savePricing input createdAt rows).1 = .error thrown → (savePricing input createdAt rows).2 = rows := by
  have stored : Stored rows := run.invariant Stored ⟨nofun, List.Pairwise.nil⟩
    fun _ _ _ before step => stored_step step.1 before step.2
  exact ⟨stored_disjoint stored, stored_lookups stored, fun _ _ _ rejected => savePricing_rejected rejected⟩

def savesInterval (id : String) (effectiveFrom : Date) (effectiveTo : Option Date) : SaveAttempt :=
  (⟨id, "vendor", "model", .usd, 1000000, 1000000, 1000000, 1000000, some effectiveFrom, effectiveTo.map some⟩, some 0)

def rowsAfter (attempts : List SaveAttempt) : List PricingRow :=
  attempts.foldl (fun rows attempt => (savePricing attempt.1 attempt.2 rows).2) []

private theorem savesInterval_within {id : String} {start : Int} {stop : Option Date} (low : firstPlainTime ≤ start)
    (high : start < lastPlainTime) (ends : ∀ time ∈ stop, time ≤ lastPlainTime) :
    WithinPlainYears (savesInterval id start stop).1 := by
  refine ⟨fun time given => Option.some.inj given ▸ ⟨low, high⟩, fun time given => ?_⟩
  simp only [savesInterval, Option.map_eq_some_iff, Option.some.injEq, exists_eq_right] at given
  exact ends time given

/-- An open interval is closed by the next, and one before both is inserted. -/
theorem pricing_stays_disjoint_closed : DisjointIntervals (rowsAfter [savesInterval "open" 2000 none,
    savesInterval "next" 3000 (some 4000), savesInterval "earlier" 1000 (some 2000)]) :=
  (pricing_stays_disjoint (Run.snoc (Run.snoc (Run.snoc Run.nil
    ⟨savesInterval_within (by decide) (by decide) (by decide), rfl⟩)
    ⟨savesInterval_within (by decide) (by decide) (by decide), rfl⟩)
    ⟨savesInterval_within (by decide) (by decide) (by decide), rfl⟩)).1

/-- An end in the year 10000, which as a text stands before every year of four digits, and an interval inside. -/
def beyondPlainYears : List SaveAttempt :=
  [savesInterval "long" 1577836800000 (some 253402300800000), savesInterval "short" 1609459200000 (some 1640995200000)]

private theorem beyondPlainYears_rows : rowsAfter beyondPlainYears =
    [⟨"long", "vendor", "model", .usd, 1000000, 1000000, 1000000, 1000000, "2020-01-01T00:00:00.000Z",
        some "+010000-01-01T00:00:00.000Z", "1970-01-01T00:00:00.000Z"⟩,
      ⟨"short", "vendor", "model", .usd, 1000000, 1000000, 1000000, 1000000, "2021-01-01T00:00:00.000Z",
        some "2022-01-01T00:00:00.000Z", "1970-01-01T00:00:00.000Z"⟩] := by
  decide

theorem extended_years_overlap : ¬∀ attempts rows, Run Saves [] attempts rows → DisjointIntervals rows := by
  intro disjoint
  have intervals := disjoint beyondPlainYears (rowsAfter beyondPlainYears) (Run.snoc (Run.snoc Run.nil rfl) rfl)
  rw [beyondPlainYears_rows] at intervals
  refine (List.pairwise_cons.mp intervals).1 _ List.mem_cons_self (by decide) 1609459200000 ⟨⟨?_, ?_⟩, ⟨?_, ?_⟩⟩
  · exact ⟨1577836800000, by decide, by decide⟩
  · intro text stopped
    cases stopped
    exact ⟨253402300800000, by decide, by decide⟩
  · exact ⟨1609459200000, by decide, by decide⟩
  · intro text stopped
    cases stopped
    exact ⟨1640995200000, by decide, by decide⟩

end AiOffice.Storage.Cost
