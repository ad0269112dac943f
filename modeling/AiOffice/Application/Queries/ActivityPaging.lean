import AiOffice.Data.Sorting
import AiOffice.Data.TextCodec
import AiOffice.Domain.IsoDate
import Mathlib.Data.Prod.Lex

namespace AiOffice.Application.Queries

open Data Domain Domain.IsoDate

structure ActivityCursor where
  occurredAt : Date
  id : String

def cursorSeparator : Char := '\x00'

def encodeActivityCursor (cursor : ActivityCursor) : String :=
  String.ofList (encodeBase64Url
    (((toISOString cursor.occurredAt).toList ++ cursorSeparator :: cursor.id.toList).flatMap utf8Bytes))

def invalidCursor : String := "cursor is not a valid pagination cursor"

def longCursor : String := "cursor is too long"

/-- `parseDate` is what the engine makes of the text of a date. -/
def parseActivityCursor (parseDate : String → Option Date) (value : Option String) : Except String (Option ActivityCursor) :=
  match value with
  | none => .ok none
  | some value =>
    if value = "" then .ok none
    else if 512 < utf16Length value then .error longCursor
    else
      let payload := decodeUtf8 none (decodeBase64Url value.toList)
      let separator := payload.idxOf cursorSeparator
      if separator = payload.length then .error invalidCursor
      else
        match parseDate (String.ofList (payload.take separator)) with
        | none => .error invalidCursor
        | some occurredAt =>
          let id := payload.drop (separator + 1)
          if id = [] then .error invalidCursor else .ok (some ⟨occurredAt, String.ofList id⟩)

structure AuditEventRow where
  id : String
  projectId : Option String
  aggregateType : Option String
  aggregateId : Option String
  occurredAt : Date
  deriving DecidableEq

structure OwnedTask where
  id : String
  projectId : String

structure TaskRun where
  id : String
  taskId : String
  projectId : String

/-- What the activity query reads. The id of an event is its primary key. -/
structure ActivityTables where
  auditEvents : List AuditEventRow
  tasks : List OwnedTask
  agentRuns : List TaskRun
  pipelineRuns : List TaskRun
  keys : (auditEvents.map AuditEventRow.id).Nodup

/-- Whose activity is read: all, or that of a project, of some aggregates or of a task and its runs. -/
structure ActivityScope where
  projectId : Option String
  aggregateIds : Option (List String)
  taskId : Option String

def concernsTask (tables : ActivityTables) (event : AuditEventRow) (taskId : String) : Bool :=
  tables.tasks.any fun task => task.id = taskId && event.projectId = some task.projectId &&
    (event.aggregateType = some "task" && event.aggregateId = some task.id ||
      event.aggregateType = some "agent_run" && tables.agentRuns.any (fun run =>
        event.aggregateId = some run.id && run.taskId = task.id && run.projectId = task.projectId) ||
      event.aggregateType = some "pipeline_run" && tables.pipelineRuns.any (fun run =>
        event.aggregateId = some run.id && run.taskId = task.id && run.projectId = task.projectId))

def inScope (tables : ActivityTables) (scope : ActivityScope) (event : AuditEventRow) : Bool :=
  scope.projectId.all (fun id => event.projectId = some id) &&
    scope.aggregateIds.all (fun ids => event.aggregateId.any fun id => id ∈ ids) &&
    scope.taskId.all (concernsTask tables event)

/-- `(occurred_at, id)`, where the time is stored as its text. -/
def position (event : AuditEventRow) : String ×ₗ String := toLex (toISOString event.occurredAt, event.id)

def behind (cursor : ActivityCursor) (event : AuditEventRow) : Bool :=
  toISOString event.occurredAt < toISOString cursor.occurredAt ||
    toISOString event.occurredAt = toISOString cursor.occurredAt && event.id < cursor.id

def listActivity (tables : ActivityTables) (scope : ActivityScope) (cursor : Option ActivityCursor) (limit : Nat) :
    List AuditEventRow :=
  if scope.aggregateIds = some [] then []
  else
    (sortOn (fun event => OrderDual.toDual (position event))
      (tables.auditEvents.filter fun event => inScope tables scope event && cursor.all fun cursor => behind cursor event)).take limit

def nextActivityCursor (records : List AuditEventRow) (limit : Nat) : Option String :=
  if records.length < limit then none
  else records.getLast?.map fun last => encodeActivityCursor ⟨last.occurredAt, last.id⟩

structure ActivityPage where
  items : List AuditEventRow
  nextCursor : Option String

def activityPage (tables : ActivityTables) (scope : ActivityScope) (cursor : Option ActivityCursor) (limit : Nat) : ActivityPage :=
  let records := listActivity tables scope cursor limit
  ⟨records, nextActivityCursor records limit⟩

/-- Follow the cursors to the end, where the tables may be others for each page. -/
def followActivity (parseDate : String → Option Date) (tables : Nat → ActivityTables) (scope : ActivityScope) (limit : Nat) :
    Nat → Nat → Option String → Option (List AuditEventRow)
  | 0, _, _ => none
  | fuel + 1, page, cursor =>
    match parseActivityCursor parseDate cursor with
    | .error _ => none
    | .ok cursor =>
      let result := activityPage (tables page) scope cursor limit
      match result.nextCursor with
      | none => some result.items
      | some next => (followActivity parseDate tables scope limit fuel (page + 1) (some next)).map (result.items ++ ·)

section Codec

variable {parseDate : String → Option Date} {cursor : ActivityCursor}

theorem toList_encode (cursor : ActivityCursor) : (encodeActivityCursor cursor).toList = encodeBase64Url
    (((toISOString cursor.occurredAt).toList ++ cursorSeparator :: cursor.id.toList).flatMap utf8Bytes) := by
  rw [encodeActivityCursor, String.toList_ofList]

theorem decode_encode (cursor : ActivityCursor) : decodeUtf8 none (decodeBase64Url (encodeActivityCursor cursor).toList) =
    (toISOString cursor.occurredAt).toList ++ cursorSeparator :: cursor.id.toList := by
  rw [toList_encode, decodeBase64Url_encode, decodeUtf8_bytes]
  intro byte member
  obtain ⟨char, -, inChar⟩ := List.mem_flatMap.mp member
  exact utf8Bytes_lt inChar

theorem digit_ne_separator (value : Nat) : cursorSeparator ≠ digit (value % 10) := by
  have each : ∀ value < 10, cursorSeparator ≠ digit value := by decide
  exact each _ (Nat.mod_lt _ (by decide))

theorem separator_absent (time : Date) : cursorSeparator ∉ (toISOString time).toList := by
  have sign : ∀ year : Int, cursorSeparator ≠ if year < 0 then '-' else '+' := fun year => by split <;> decide
  have marks : cursorSeparator ∉ ['-', 'T', ':', '.', 'Z'] := by decide
  simp only [List.mem_cons, List.not_mem_nil, or_false, not_or] at marks
  have year : ∀ year, cursorSeparator ∉ yearText year := by
    intro year
    unfold yearText
    split <;> simp [sixDigits, fourDigits, threeDigits, twoDigits, digit_ne_separator, sign]
  rw [toISOString, isoText, String.toList_ofList]
  simp [year, threeDigits, twoDigits, digit_ne_separator, marks]

theorem encode_ne_empty (cursor : ActivityCursor) : encodeActivityCursor cursor ≠ "" := by
  intro empty
  have decoded := decode_encode cursor
  rw [empty] at decoded
  have absent : cursorSeparator ∈ ([] : List Char) := by
    have same : decodeUtf8 none (decodeBase64Url "".toList) = [] := by decide
    rw [← same, decoded]
    simp
  cases absent

theorem parseActivityCursor_encode (reads : ∀ time, validTime time = true → parseDate (toISOString time) = some time)
    (valid : validTime cursor.occurredAt = true) (named : cursor.id ≠ "")
    (short : utf16Length (encodeActivityCursor cursor) ≤ 512) :
    parseActivityCursor parseDate (some (encodeActivityCursor cursor)) = .ok (some cursor) := by
  have separator : ((toISOString cursor.occurredAt).toList ++ cursorSeparator :: cursor.id.toList).idxOf cursorSeparator =
      (toISOString cursor.occurredAt).toList.length := by
    rw [List.idxOf_append_of_notMem (separator_absent _), List.idxOf_cons_self, Nat.add_zero]
  have filled : cursor.id.toList ≠ [] := fun empty => named (String.toList_injective (by simpa using empty))
  simp only [parseActivityCursor, if_neg (encode_ne_empty cursor), if_neg (Nat.not_lt.mpr short), decode_encode, separator]
  rw [if_neg (by simp), List.take_left', String.ofList_toList, reads _ valid]
  · simp [filled]
  · rfl

end Codec

section Page

variable {tables : ActivityTables} {scope : ActivityScope} {cursor : Option ActivityCursor} {limit : Nat}
  {event last : AuditEventRow} {rows : List AuditEventRow}

def activityOf (tables : ActivityTables) (scope : ActivityScope) : List AuditEventRow :=
  tables.auditEvents.filter (inScope tables scope)

def below (cursor : Option ActivityCursor) (event : AuditEventRow) : Bool := cursor.all fun cursor => behind cursor event

def Later (event other : AuditEventRow) : Prop := position other < position event

def ofEvent (event : AuditEventRow) : ActivityCursor := ⟨event.occurredAt, event.id⟩

def place (cursor : ActivityCursor) : String ×ₗ String := toLex (toISOString cursor.occurredAt, cursor.id)

theorem below_iff {cursor : ActivityCursor} : below (some cursor) event = true ↔ position event < place cursor := by
  simp [below, behind, position, place, Prod.Lex.toLex_lt_toLex]

theorem below_ofEvent : below (some (ofEvent last)) event = true ↔ Later last event := below_iff

theorem below_trans (later : below (some (ofEvent last)) event = true) (inside : below cursor last = true) :
    below cursor event = true := by
  cases cursor with
  | none => rfl
  | some cursor => exact below_iff.mpr ((below_iff.mp later).trans (below_iff.mp inside))

def rowsBelow (tables : ActivityTables) (scope : ActivityScope) (cursor : Option ActivityCursor) : List AuditEventRow :=
  sortOn (fun event => OrderDual.toDual (position event)) ((activityOf tables scope).filter (below cursor))

theorem mem_rowsBelow : event ∈ rowsBelow tables scope cursor ↔ event ∈ activityOf tables scope ∧ below cursor event = true := by
  simp [rowsBelow]

theorem listActivity_eq : listActivity tables scope cursor limit = (rowsBelow tables scope cursor).take limit := by
  have filtered : (activityOf tables scope).filter (below cursor) =
      tables.auditEvents.filter fun event => inScope tables scope event && cursor.all fun cursor => behind cursor event := by
    rw [activityOf, List.filter_filter]
    exact List.filter_congr fun event _ => Bool.and_comm _ _
  rw [listActivity, rowsBelow, filtered]
  split
  · next nothing =>
      have empty : tables.auditEvents.filter (fun event => inScope tables scope event && cursor.all fun cursor => behind cursor event) = [] := by
        rw [List.filter_eq_nil_iff]
        intro event _
        cases event.aggregateId <;> simp [inScope, nothing]
      rw [empty]
      simp [sortOn]
  · rfl

theorem rowsBelow_later : (rowsBelow tables scope cursor).Pairwise Later := by
  have distinct : ((rowsBelow tables scope cursor).map position).Nodup := by
    have ids : ((rowsBelow tables scope cursor).map AuditEventRow.id).Nodup := by
      refine ((sortOn_perm _ _).map _).nodup_iff.mpr (tables.keys.sublist (List.Sublist.map _ ?_))
      exact List.filter_sublist.trans List.filter_sublist
    refine List.Nodup.of_map (fun place => (ofLex place).2) ?_
    rwa [List.map_map]
  have sorted := sortOn_sorted (fun event => OrderDual.toDual (position event)) ((activityOf tables scope).filter (below cursor))
  rw [List.Nodup, List.pairwise_map] at distinct
  refine (sorted.and distinct).imp fun ⟨above, apart⟩ => ?_
  exact lt_of_le_of_ne (OrderDual.toDual_le_toDual.mp above) (Ne.symm apart)

theorem activityPage_cases (positive : 0 < limit) :
    ((activityPage tables scope cursor limit).nextCursor = none ∧
      (activityPage tables scope cursor limit).items = rowsBelow tables scope cursor) ∨
    ∃ front last rest, rowsBelow tables scope cursor = front ++ last :: rest ∧
      (activityPage tables scope cursor limit).items = front ++ [last] ∧
      (activityPage tables scope cursor limit).nextCursor = some (encodeActivityCursor (ofEvent last)) := by
  simp only [activityPage, listActivity_eq, nextActivityCursor]
  by_cases short : ((rowsBelow tables scope cursor).take limit).length < limit
  · rw [if_pos short]
    rw [List.length_take] at short
    exact .inl ⟨rfl, List.take_of_length_le (by omega)⟩
  · rw [if_neg short]
    have filled : (rowsBelow tables scope cursor).take limit ≠ [] := by
      intro empty
      rw [empty] at short
      exact short positive
    obtain ⟨last, isLast⟩ := Option.isSome_iff_exists.mp (List.getLast?_isSome.mpr filled)
    obtain ⟨front, same⟩ := List.getLast?_eq_some_iff.mp isLast
    refine .inr ⟨front, last, (rowsBelow tables scope cursor).drop limit, ?_, same, by rw [isLast]; rfl⟩
    rw [← List.singleton_append, ← List.append_assoc, ← same, List.take_append_drop]

end Page

section Paging

variable {parseDate : String → Option Date} {tables : Nat → ActivityTables} {scope : ActivityScope} {limit : Nat}
  {all : List AuditEventRow} {event : AuditEventRow}

structure Followable (event : AuditEventRow) : Prop where
  valid : validTime event.occurredAt = true
  named : event.id ≠ ""
  short : utf16Length (encodeActivityCursor (ofEvent event)) ≤ 512

/-- Between the pages events are appended: finitely many, and any number that are later than all there were at first. -/
structure Appending (tables : Nat → ActivityTables) (scope : ActivityScope) (all : List AuditEventRow) : Prop where
  grows : ∀ page, ∀ event ∈ activityOf (tables page) scope, event ∈ activityOf (tables (page + 1)) scope
  bounded : ∀ page, ∀ event ∈ activityOf (tables page) scope,
    event ∈ all ∨ ∀ present ∈ activityOf (tables 0) scope, Later event present

/-- The first cursor, or one that is not beyond all events of the first page. -/
def Started (tables : Nat → ActivityTables) (scope : ActivityScope) (page : Nat) : Option ActivityCursor → Prop
  | none => page = 0
  | some cursor => ∃ present ∈ activityOf (tables 0) scope, place cursor ≤ position present

theorem Appending.known (appending : Appending tables scope all) {page : Nat} {cursor : Option ActivityCursor}
    (started : Started tables scope page cursor) (member : event ∈ activityOf (tables page) scope)
    (inside : below cursor event = true) : event ∈ all := by
  rcases appending.bounded page event member with known | later
  · exact known
  · cases cursor with
    | none =>
      obtain rfl : page = 0 := started
      exact absurd (later event member) (lt_irrefl _)
    | some cursor =>
      obtain ⟨present, inFirst, least⟩ := started
      exact absurd (later present inFirst) (lt_asymm ((below_iff.mp inside).trans_le least))

theorem Started.next {page : Nat} {cursor : Option ActivityCursor} {last : AuditEventRow}
    (started : Started tables scope page cursor) (member : last ∈ activityOf (tables page) scope)
    (inside : below cursor last = true) : Started tables scope (page + 1) (some (ofEvent last)) := by
  cases cursor with
  | none =>
    obtain rfl : page = 0 := started
    exact ⟨last, member, le_rfl⟩
  | some cursor =>
    obtain ⟨present, inFirst, least⟩ := started
    exact ⟨present, inFirst, ((below_iff.mp inside).trans_le least).le⟩

theorem filter_below_lt {cursor : Option ActivityCursor} {last : AuditEventRow} (member : last ∈ all)
    (inside : below cursor last = true) :
    (all.filter (below (some (ofEvent last)))).length < (all.filter (below cursor)).length := by
  have nested : all.filter (below (some (ofEvent last))) = (all.filter (below cursor)).filter (below (some (ofEvent last))) := by
    rw [List.filter_filter]
    refine List.filter_congr fun event _ => ?_
    cases later : below (some (ofEvent last)) event with
    | false => rfl
    | true => rw [below_trans later inside, Bool.and_self]
  rw [nested, List.length_filter_lt_length_iff_exists]
  exact ⟨last, List.mem_filter.mpr ⟨member, inside⟩, fun later => lt_irrefl (position last) (below_ofEvent.mp later)⟩

/-- From any cursor on, the pages that follow hold each event behind it, latest first. -/
theorem followActivity_spec (reads : ∀ time, validTime time = true → parseDate (toISOString time) = some time)
    (positive : 0 < limit) (appending : Appending tables scope all) (followable : ∀ event ∈ all, Followable event)
    {fuel page : Nat} {text : Option String} {cursor : Option ActivityCursor}
    (parsed : parseActivityCursor parseDate text = .ok cursor) (started : Started tables scope page cursor)
    (enough : (all.filter (below cursor)).length < fuel) :
    ∃ items, followActivity parseDate tables scope limit fuel page text = some items ∧ items.Pairwise Later ∧
      (∀ item ∈ items, below cursor item = true ∧ item ∈ all) ∧
      ∀ event ∈ activityOf (tables page) scope, below cursor event = true → event ∈ items := by
  induction fuel generalizing page text cursor with
  | zero => omega
  | succ fuel ih =>
    have rows : ∀ item ∈ rowsBelow (tables page) scope cursor, below cursor item = true ∧ item ∈ all := by
      intro item member
      obtain ⟨inScope, inside⟩ := mem_rowsBelow.mp member
      exact ⟨inside, appending.known started inScope inside⟩
    rw [followActivity, parsed]
    simp only
    rcases @activityPage_cases (tables page) scope cursor limit positive with
      ⟨ended, whole⟩ | ⟨front, last, rest, whole, items, next⟩
    · rw [ended, whole]
      exact ⟨_, rfl, rowsBelow_later, rows, fun event member inside => mem_rowsBelow.mpr ⟨member, inside⟩⟩
    · have sorted := @rowsBelow_later (tables page) scope cursor
      have isRow : last ∈ rowsBelow (tables page) scope cursor := by
        rw [whole]
        exact List.mem_append_right front List.mem_cons_self
      obtain ⟨inScope, inside⟩ := mem_rowsBelow.mp isRow
      have known := (rows last isRow).2
      have follow := followable last known
      have again := parseActivityCursor_encode reads follow.valid follow.named follow.short
      obtain ⟨later, followed, laterSorted, laterBelow, laterAll⟩ :=
        ih again (started.next inScope inside) (by have less := filter_below_lt known inside; omega)
      rw [next, items]
      simp only [followed, Option.map_some]
      have split : front ++ last :: rest = (front ++ [last]) ++ rest := by simp
      rw [whole, split] at sorted
      obtain ⟨frontSorted, -, behindFront⟩ := List.pairwise_append.mp sorted
      have upToLast : ∀ item ∈ front ++ [last], position last ≤ position item := by
        intro item member
        rcases List.mem_append.mp member with inFront | isLast
        · exact ((List.pairwise_append.mp frontSorted).2.2 item inFront last (List.mem_singleton_self last)).le
        · rw [List.mem_singleton.mp isLast]
      refine ⟨_, rfl, List.pairwise_append.mpr ⟨frontSorted, laterSorted, fun item member other inLater => ?_⟩,
        fun item member => ?_, fun event member behind => ?_⟩
      · exact (below_ofEvent.mp (laterBelow other inLater).1).trans_le (upToLast item member)
      · rcases List.mem_append.mp member with inPage | inLater
        · refine rows item ?_
          rw [whole, split]
          exact List.mem_append_left rest inPage
        · exact ⟨below_trans (laterBelow item inLater).1 inside, (laterBelow item inLater).2⟩
      · have isRow := mem_rowsBelow.mpr ⟨member, behind⟩
        rw [whole, split] at isRow
        rcases List.mem_append.mp isRow with inPage | inRest
        · exact List.mem_append_left later inPage
        · have afterLast : Later last event :=
            behindFront last (List.mem_append_right front (List.mem_singleton_self last)) event inRest
          exact List.mem_append_right _ (laterAll event (appending.grows page event member) (below_ofEvent.mpr afterLast))

/-- In descending order of the time, and of the id where the times are the same. -/
def LatestFirst (items : List AuditEventRow) : Prop :=
  items.Pairwise fun event other =>
    other.occurredAt < event.occurredAt ∨ other.occurredAt = event.occurredAt ∧ other.id < event.id

theorem latestFirst_plain {items : List AuditEventRow} (sorted : items.Pairwise Later)
    (plain : ∀ item ∈ items, firstPlainTime ≤ item.occurredAt ∧ item.occurredAt ≤ lastPlainTime) : LatestFirst items := by
  refine sorted.imp_of_mem fun {event other} inItems otherItem later => ?_
  obtain ⟨low, high⟩ := plain event inItems
  obtain ⟨otherLow, otherHigh⟩ := plain other otherItem
  have earlier := toISOString_lt_iff otherLow otherHigh low high
  have reversed := toISOString_lt_iff low high otherLow otherHigh
  rcases Prod.Lex.toLex_lt_toLex.mp later with less | ⟨same, less⟩
  · exact .inl (earlier.mp less)
  · simp only [] at same
    rw [same] at earlier reversed
    have notEarlier := earlier.not.mp (lt_irrefl _)
    have notLater := reversed.not.mp (lt_irrefl _)
    exact .inr ⟨le_antisymm (not_lt.mp notLater) (not_lt.mp notEarlier), less⟩

/--
Following the cursors from the first page gives each event that was there exactly once, latest first, whatever is
appended between the pages; and parsing an encoded cursor gives its position back.
-/
theorem activityPaging_lossless (reads : ∀ time, validTime time = true → parseDate (toISOString time) = some time)
    (tables : Nat → ActivityTables) (scope : ActivityScope) (limit : Nat) (all : List AuditEventRow) (positive : 0 < limit)
    (appending : Appending tables scope all) (followable : ∀ event ∈ all, Followable event) :
    (∀ cursor : ActivityCursor, validTime cursor.occurredAt = true → cursor.id ≠ "" →
      utf16Length (encodeActivityCursor cursor) ≤ 512 →
      parseActivityCursor parseDate (some (encodeActivityCursor cursor)) = .ok (some cursor)) ∧
    ∃ items, followActivity parseDate tables scope limit (all.length + 1) 0 none = some items ∧
      (∀ event ∈ activityOf (tables 0) scope, items.count event = 1) ∧ items.Pairwise Later ∧
      ((∀ event ∈ all, firstPlainTime ≤ event.occurredAt ∧ event.occurredAt ≤ lastPlainTime) → LatestFirst items) := by
  refine ⟨fun cursor valid named short => parseActivityCursor_encode reads valid named short, ?_⟩
  have start : parseActivityCursor parseDate none = .ok none := rfl
  have enough : (all.filter (below none)).length < all.length + 1 := Nat.lt_succ_of_le (List.length_filter_le _ _)
  obtain ⟨items, followed, sorted, inside, complete⟩ :=
    @followActivity_spec _ _ scope limit all reads positive appending followable _ 0 none none start rfl enough
  refine ⟨items, followed, fun event member => ?_, sorted, fun plain => ?_⟩
  · have distinct : items.Nodup := sorted.imp fun later => by
      rintro rfl
      exact lt_irrefl _ later
    exact List.count_eq_one_of_mem distinct (complete event member rfl)
  · exact latestFirst_plain sorted fun item member => plain item (inside item member).2

end Paging

section Instances

def command (id : String) (occurredAt : Date) : AuditEventRow := ⟨id, none, none, none, occurredAt⟩

def firstEvents : List AuditEventRow := [command "a" 0, command "b" 0]

def allEvents : List AuditEventRow := firstEvents ++ [command "c" 1]

def growing : Nat → ActivityTables
  | 0 => ⟨firstEvents, [], [], [], by decide⟩
  | _ + 1 => ⟨allEvents, [], [], [], by decide⟩

theorem growing_appending : Appending growing ⟨none, none, none⟩ allEvents where
  grows page := by
    cases page with
    | zero => decide
    | succ page => exact fun _ member => member
  bounded page event member := by
    refine .inl ?_
    cases page with
    | zero => exact List.mem_append_left _ (List.mem_of_mem_filter member)
    | succ page => exact List.mem_of_mem_filter member

theorem growing_followable : ∀ event ∈ allEvents, Followable event := by
  intro event member
  simp only [allEvents, firstEvents, List.cons_append, List.nil_append, List.mem_cons, List.not_mem_nil, or_false] at member
  rcases member with rfl | rfl | rfl <;> exact ⟨by decide, by decide, by decide⟩

def readText (text : String) : Option Date := readDate text.toList

theorem readText_toISOString (time : Date) (valid : validTime time = true) : readText (toISOString time) = some time := by
  rw [readText, readDate_toISOString valid]

theorem activityPaging_lossless_growing :
    (∀ cursor : ActivityCursor, validTime cursor.occurredAt = true → cursor.id ≠ "" →
      utf16Length (encodeActivityCursor cursor) ≤ 512 →
      parseActivityCursor readText (some (encodeActivityCursor cursor)) = .ok (some cursor)) ∧
    ∃ items, followActivity readText growing ⟨none, none, none⟩ 1 (allEvents.length + 1) 0 none = some items ∧
      (∀ event ∈ activityOf (growing 0) ⟨none, none, none⟩, items.count event = 1) ∧ items.Pairwise Later ∧
      ((∀ event ∈ allEvents, firstPlainTime ≤ event.occurredAt ∧ event.occurredAt ≤ lastPlainTime) → LatestFirst items) :=
  activityPaging_lossless readText_toISOString growing ⟨none, none, none⟩ 1 allEvents (by decide)
    growing_appending growing_followable

theorem length_le_utf16 (chars : List Char) : chars.length ≤ utf16Length (String.ofList chars) := by
  rw [utf16Length, String.toList_ofList]
  induction chars with
  | nil => exact Nat.le_refl _
  | cons char chars ih =>
    rw [List.map_cons, List.sum_cons, List.length_cons]
    split <;> omega

theorem parseActivityCursor_long {parseDate : String → Option Date} {cursor : ActivityCursor} (long : 512 ≤ cursor.id.toList.length) :
    parseActivityCursor parseDate (some (encodeActivityCursor cursor)) = .error longCursor := by
  have units := length_le_utf16 (encodeActivityCursor cursor).toList
  rw [String.ofList_toList, toList_encode] at units
  have sextets := length_le_encode
    (((toISOString cursor.occurredAt).toList ++ cursorSeparator :: cursor.id.toList).flatMap utf8Bytes)
  have bytes := length_le_utf8 ((toISOString cursor.occurredAt).toList ++ cursorSeparator :: cursor.id.toList)
  rw [List.length_append, List.length_cons] at bytes
  have exceeds : 512 < utf16Length (encodeActivityCursor cursor) := by omega
  rw [parseActivityCursor]
  simp only [if_neg (encode_ne_empty cursor), if_pos exceeds]

/-- The cursor of an event with a long id is refused as too long. -/
theorem longId_refused : ∃ cursor : ActivityCursor, validTime cursor.occurredAt = true ∧ cursor.id ≠ "" ∧
    parseActivityCursor readText (some (encodeActivityCursor cursor)) = .error longCursor := by
  have length : (String.ofList (List.replicate 512 'a')).toList.length = 512 := by
    rw [String.toList_ofList, List.length_replicate]
  refine ⟨⟨0, String.ofList (List.replicate 512 'a')⟩, by decide, fun empty => ?_, parseActivityCursor_long length.ge⟩
  change String.ofList (List.replicate 512 'a') = "" at empty
  rw [empty] at length
  cases length

end Instances

end AiOffice.Application.Queries
