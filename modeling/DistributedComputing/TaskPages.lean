import DistributedComputing.BackendPasses
import DistributedComputing.BrokerLists
import DistributedComputing.DecimalTexts
import DistributedComputing.Pagination

/-!
# Reading the list of tasks by pages

A client asks for `limit=k` and the offsets `0`, `k`, `2k` and so on until a page is empty.
Tasks are ordered by their time of creation alone, and the database orders tasks of the same
time as it likes, for every request anew.
-/

namespace DistributedComputing

open Pagination

/-! ## Numbers of a query -/

theorem stoi_toString (number : Nat) :
    ControlService.stoi (toString number) =
      if number < 2 ^ 31 then some (number : Int) else none := by
  obtain ⟨first, rest, text⟩ := exists_decimalText number
  obtain ⟨notMinus, notPlus⟩ := text.not_sign
  have value : rest.foldl (fun (total : Int) digit => 10 * total + (digit.toNat - 48 : Nat))
      ((first.toNat - 48 : Nat) : Int) = number := by
    simpa using text.foldl_int
  have bound : (number : Int) < 2147483648 ↔ number < 2147483648 := by
    omega
  unfold ControlService.stoi
  rw [text.chars, text.dropWhile_isSpace]
  simp [notMinus, notPlus, text.takeWhile_isDigit, value, bound]

/-! ## Orders by time -/

namespace NewestFirst

variable (rank : Int → Nat)

instance : IsTrans TaskRow (NewestFirst rank) where
  trans first second third earlier later := by
    rcases earlier with before | ⟨tie, ranked⟩
    · rcases later with beforeToo | ⟨tieToo, _⟩
      · exact .inl (lt_trans beforeToo before)
      · exact .inl (tieToo ▸ before)
    · rcases later with beforeToo | ⟨tieToo, rankedToo⟩
      · exact .inl (tie ▸ beforeToo)
      · exact .inr ⟨tie.trans tieToo, ranked.trans rankedToo⟩

instance : Std.Total (NewestFirst rank) where
  total first second := by
    rcases lt_trichotomy second.createdAt first.createdAt with before | tie | after
    · exact .inl (.inl before)
    · rcases le_total (rank first.taskId) (rank second.taskId) with ranked | ranked
      · exact .inl (.inr ⟨tie.symm, ranked⟩)
      · exact .inr (.inr ⟨tie, ranked⟩)
    · exact .inr (.inl after)

/-- The database orders by time. -/
theorem ordered_insertionSort (chosen : List TaskRow) :
    Ordered TaskRow.createdAt chosen (chosen.insertionSort (NewestFirst rank)) where
  perm := List.perm_insertionSort _ chosen
  descending := by
    apply (List.pairwise_insertionSort (NewestFirst rank) chosen).imp
    rintro first second (before | ⟨tie, _⟩)
    · exact le_of_lt before
    · exact le_of_eq tie.symm

/-- Every order by time is one that the database may choose. -/
theorem exists_rank {chosen ordered : List TaskRow} (unique : (chosen.map TaskRow.taskId).Nodup)
    (isOrder : Ordered TaskRow.createdAt chosen ordered) :
    ∃ rank, chosen.insertionSort (NewestFirst rank) = ordered := by
  have distinct : (ordered.map TaskRow.taskId).Nodup :=
    ((isOrder.perm.map _).nodup_iff).mpr unique
  let rank : Int → Nat := fun taskId => (ordered.map TaskRow.taskId).idxOf taskId
  have ranked : ordered.Pairwise (NewestFirst rank) := by
    rw [List.pairwise_iff_getElem]
    intro earlier later earlierLt laterLt less
    have descending := List.pairwise_iff_getElem.mp isOrder.descending earlier later earlierLt
      laterLt less
    have place : ∀ index (inside : index < ordered.length), rank ordered[index].taskId = index := by
      intro index inside
      have found := distinct.idxOf_getElem index (by simpa using inside)
      rwa [List.getElem_map] at found
    rcases lt_or_eq_of_le descending with before | tie
    · exact .inl before
    · exact .inr ⟨tie.symm, by rw [place, place]; exact le_of_lt less⟩
  refine ⟨rank, List.Perm.eq_of_pairwise ?_ (List.pairwise_insertionSort _ chosen) ranked
    ((List.perm_insertionSort _ chosen).trans isOrder.perm.symm)⟩
  intro first second firstMember secondMember forward backward
  have inOrdered : ∀ row ∈ chosen.insertionSort (NewestFirst rank), row ∈ ordered :=
    fun row member => isOrder.perm.mem_iff.mpr ((List.mem_insertionSort _).mp member)
  have sameRank : rank first.taskId = rank second.taskId := by
    rcases forward with before | ⟨_, ranked⟩
    · rcases backward with beforeToo | ⟨tie, _⟩
      · exact absurd before (lt_asymm beforeToo)
      · exact absurd tie (ne_of_lt before)
    · rcases backward with beforeToo | ⟨_, rankedToo⟩
      · exact absurd ‹first.createdAt = second.createdAt› (ne_of_lt beforeToo)
      · exact le_antisymm ranked rankedToo
  have sameId := (List.idxOf_inj (List.mem_map_of_mem (inOrdered first firstMember))).mp sameRank
  exact List.inj_on_of_nodup_map distinct (inOrdered first firstMember) secondMember sameId

end NewestFirst

/-! ## The requests -/

namespace Deployment

variable (deployment : Deployment)

/-- Both databases cut a page alike if it has a positive size. -/
theorem page_of_positive {Row : Type} {limit offset : Int} (limited : 1 ≤ limit)
    (started : 0 ≤ offset) (rows : List Row) :
    deployment.page limit offset rows = .ok ((rows.drop offset.toNat).take limit.toNat) := by
  cases deployment with
  | pgsql timestamptz => exact page_pgsql limited started rows
  | mongo => exact page_mongo limited started rows
  | mongoStandalone => exact page_mongo limited started rows

/-- The tasks that match a filter. -/
def matching (state : Option TaskState) (agentId : Option String) (store : Store) :
    List TaskRow :=
  store.tasks.rows.filter (deployment.lists state agentId)

theorem nodup_matching (state : Option TaskState) (agentId : Option String) (store : Store) :
    ((deployment.matching state agentId store).map TaskRow.taskId).Nodup :=
  store.tasks.unique.sublist (List.filter_sublist.map TaskRow.taskId)

theorem listTasks_page {attempts : List Attempt} (healthy : deployment.Healthy attempts)
    (state : Option TaskState) (agentId : Option String) {limit offset : Int}
    (limited : 1 ≤ limit) (started : 0 ≤ offset) (store : Store) :
    ∃ attempt ∈ attempts, deployment.broker.listTasks attempts state agentId limit offset store =
      (.ok (((((deployment.matching state agentId store).insertionSort
        (NewestFirst attempt.rank)).drop offset.toNat).take limit.toNat).map
          PgBroker.taskSummary), store) := by
  have pass : ∀ attempt, deployment.listTasksPass state agentId limit offset attempt store =
      (.ok (((((deployment.matching state agentId store).insertionSort
        (NewestFirst attempt.rank)).drop offset.toNat).take limit.toNat).map
          PgBroker.taskSummary), store) := by
    intro attempt
    unfold listTasksPass
    dsimp only
    rw [page_of_positive deployment limited started]
    rfl
  have stable : ∀ attempt error after,
      deployment.listTasksPass state agentId limit offset attempt store = (.error error, after) →
        after = store := by
    intro attempt error after raised
    rw [pass] at raised
    cases raised
  obtain ⟨attempt, member, ended⟩ :=
    (deployment.listTasksLoop state agentId limit offset).exists_pass healthy stable
  exact ⟨attempt, member, ended.trans (LoopOf.caught_of_ok (pass attempt))⟩

end Deployment

/-- What the request for a page shows of tasks in some order.  In place of a number that is no
`int` the handler takes a default. -/
def shownPage {Row : Type} (size : Nat) (ordered : List Row) (index : Nat) : List Row :=
  let limit := if size < 2 ^ 31 then size else 50
  let offset := if index * size < 2 ^ 31 then index * size else 0
  (ordered.drop offset).take limit

theorem shownPage_eq_page {Row : Type} {size index : Nat} (ordered : List Row)
    (limited : size < 2 ^ 31) (started : index * size < 2 ^ 31) :
    shownPage size ordered index = page size ordered index := by
  unfold shownPage page
  rw [if_pos limited, if_pos started]

/-- A page of a table that is not empty is empty only beyond its end. -/
theorem shownPage_eq_nil {Row : Type} {size index : Nat} {ordered : List Row}
    (positive : 1 ≤ size) (nonempty : 0 < ordered.length)
    (empty : shownPage size ordered index = []) :
    index * size < 2 ^ 31 ∧ ordered.length ≤ index * size := by
  have length := congrArg List.length empty
  unfold shownPage at length
  rw [List.length_take, List.length_drop, List.length_nil] at length
  split at length <;> split at length <;> omega

theorem shownPage_of_end {Row : Type} {size index : Nat} {ordered : List Row}
    (started : index * size < 2 ^ 31) (ended : ordered.length ≤ index * size) :
    shownPage size ordered index = [] := by
  unfold shownPage
  dsimp only
  rw [if_pos started, List.drop_of_length_le ended, List.take_nil]

theorem page_ne_nil {Row : Type} {size index : Nat} {ordered : List Row} (positive : 1 ≤ size)
    (inside : index * size < ordered.length) : page size ordered index ≠ [] := by
  intro empty
  have length := congrArg List.length empty
  unfold page at length
  rw [List.length_take, List.length_drop, List.length_nil] at length
  omega

theorem lt_length_of_mem_page {Row : Type} {size index : Nat} {ordered : List Row} {row : Row}
    (member : row ∈ page size ordered index) : index * size < ordered.length := by
  by_contra beyond
  rw [page, List.drop_of_length_le (not_lt.mp beyond), List.take_nil] at member
  cases member

/-- The offset of the first empty page. -/
def endOffset (size length : Nat) : Nat :=
  (length + size - 1) / size * size

theorem endOffset_le {size length count : Nat} (positive : 1 ≤ size)
    (enough : length ≤ count * size) : endOffset size length ≤ count * size := by
  apply Nat.mul_le_mul_right
  rw [← Nat.lt_succ_iff, Nat.div_lt_iff_lt_mul positive, Nat.succ_mul]
  omega

/-- The answer with these tasks. -/
def listingResponse (tasks : List Json) : Response where
  status := 200
  body := .object [("tasks", .array tasks)]

def listedTask (row : TaskRow) : Json :=
  Api.taskSummaryToJson (PgBroker.taskSummary row)

namespace Deployment

variable (deployment : Deployment)

/-- `GET /tasks` with a limit and the offset of a page. -/
def getPage (attempts : List Attempt) (state agentId : Option String) (size : Nat)
    (store : Store) (index : Nat) : Response :=
  (ControlService.handleListTasks deployment.broker attempts state agentId
    (some (toString size)) (some (toString (index * size))) store).1

/-- However the database orders the tasks for each request, the pages up to the first empty one
list every task that matches the filter once. -/
def EnumeratesOnce (parameter : Option String) (state : Option TaskState)
    (agentId : Option String) (size : Nat) (store : Store) : Prop :=
  ∀ attempts : Nat → List Attempt, (∀ index, deployment.Healthy (attempts index)) →
    ∃ pages all,
      (∀ index, deployment.getPage (attempts index) parameter agentId size store index =
        listingResponse (pages index)) ∧
      ReadsTo pages all ∧ all.Perm ((deployment.matching state agentId store).map listedTask)

/-- Two rows of a list of tasks are listed differently. -/
theorem nodup_listedTask (state : Option TaskState) (agentId : Option String) (store : Store) :
    ((deployment.matching state agentId store).map listedTask).Nodup := by
  have unique := deployment.nodup_matching state agentId store
  refine List.Nodup.map_on ?_ unique.of_map
  intro first firstMember second secondMember same
  apply List.inj_on_of_nodup_map unique firstMember secondMember
  simp only [listedTask, Api.taskSummaryToJson, PgBroker.taskSummary, Json.object.injEq,
    List.cons.injEq, Prod.mk.injEq, Json.integer.injEq] at same
  exact same.1.2

section Pages

variable {deployment} {parameter : Option String} {state : Option TaskState}
  (isState : ControlService.parseQueryParam taskStateFromApi "Invalid task state" parameter =
    .ok state) (agentId : Option String) {size : Nat} (positive : 1 ≤ size) (store : Store)

include isState positive

theorem getPage_eq {attempts : List Attempt} (healthy : deployment.Healthy attempts)
    (index : Nat) :
    ∃ attempt ∈ attempts, deployment.getPage attempts parameter agentId size store index =
      listingResponse ((shownPage size ((deployment.matching state agentId store).insertionSort
        (NewestFirst attempt.rank)) index).map listedTask) := by
  have limit : ControlService.getQueryParamInt (some (toString size)) 50 =
      ((if size < 2 ^ 31 then size else 50 : Nat) : Int) := by
    unfold ControlService.getQueryParamInt
    rw [Option.bind_some, stoi_toString]
    split <;> rfl
  have offset : ControlService.getQueryParamInt (some (toString (index * size))) 0 =
      ((if index * size < 2 ^ 31 then index * size else 0 : Nat) : Int) := by
    unfold ControlService.getQueryParamInt
    rw [Option.bind_some, stoi_toString]
    split <;> rfl
  have limited : (1 : Int) ≤ ((if size < 2 ^ 31 then size else 50 : Nat) : Int) := by
    split <;> omega
  obtain ⟨attempt, member, listed⟩ := deployment.listTasks_page healthy state agentId limited
    (Int.natCast_nonneg (if index * size < 2 ^ 31 then index * size else 0)) store
  refine ⟨attempt, member, ?_⟩
  unfold getPage ControlService.handleListTasks
  rw [isState, limit, offset]
  dsimp only
  rw [listed]
  dsimp only
  rw [List.map_map]
  rfl

theorem enumeratesOnce_of_ties
    (bounded : endOffset size (deployment.matching state agentId store).length < 2 ^ 31)
    (within : TiesWithinPages TaskRow.createdAt size (deployment.matching state agentId store)) :
    deployment.EnumeratesOnce parameter state agentId size store := by
  intro attempts healthy
  choose attempt _ listed using fun index =>
    getPage_eq isState agentId positive store (healthy index) index
  let rows := deployment.matching state agentId store
  let orders : Nat → List TaskRow := fun index =>
    rows.insertionSort (NewestFirst (attempt index).rank)
  have isOrder : ∀ index, Ordered TaskRow.createdAt rows (orders index) :=
    fun index => NewestFirst.ordered_insertionSort _ rows
  let count := (rows.length + size - 1) / size
  have enough : rows.length ≤ count * size := by
    have step := Nat.lt_succ_iff.mpr (le_refl count)
    rw [Nat.div_lt_iff_lt_mul positive, Nat.succ_mul] at step
    omega
  have inside : ∀ index < count, index * size < rows.length ∧
      shownPage size (orders index) index = Pagination.page size (orders index) index := by
    intro index less
    have reached : (index + 1) * size ≤ rows.length + size - 1 :=
      (Nat.le_div_iff_mul_le positive).mp less
    have last : (index + 1) * size ≤ count * size := Nat.mul_le_mul_right size less
    have bound : count * size < 2 ^ 31 := bounded
    rw [Nat.succ_mul] at reached last
    exact ⟨by omega, shownPage_eq_page _ (by omega) (by omega)⟩
  refine ⟨fun index => (shownPage size (orders index) index).map listedTask,
    (List.range count).flatMap fun index => (shownPage size (orders index) index).map listedTask,
    listed, ⟨count, ?_, ?_, rfl⟩, ?_⟩
  · intro index less empty
    obtain ⟨before, isPage⟩ := inside index less
    dsimp only at empty
    rw [isPage, List.map_eq_nil_iff] at empty
    rw [← (isOrder index).perm.length_eq] at before
    exact page_ne_nil positive before empty
  · have ended : (orders count).length ≤ count * size :=
      (isOrder count).perm.length_eq.trans_le enough
    dsimp only
    rw [shownPage_of_end bounded ended, List.map_nil]
  · rw [← List.map_flatMap]
    have pages := within.pages_perm isOrder enough
    rw [List.flatMap_congr fun index member => (inside index (List.mem_range.mp member)).2]
    exact pages.map listedTask

/-- The pages that are read under some order for each request. -/
theorem EnumeratesOnce.pages (enumerates : deployment.EnumeratesOnce parameter state agentId
    size store) (ranks : Nat → Int → Nat) :
    let shown : Nat → List TaskRow := fun index => shownPage size
      ((deployment.matching state agentId store).insertionSort (NewestFirst (ranks index))) index
    ∃ count, shown count = [] ∧
      ((List.range count).flatMap fun index => (shown index).map listedTask).Nodup := by
  intro shown
  let attempts : Nat → List Attempt := fun index =>
    [{ deployment.calmAttempt 0 with rank := ranks index }]
  have healthy : ∀ index, deployment.Healthy (attempts index) := by
    intro index
    have calm := (deployment.healthy_calmAttempt 0).attempt _ List.mem_cons_self
    refine ⟨List.cons_ne_nil _ _, ?_⟩
    intro attempt member
    rw [List.mem_singleton] at member
    subst member
    cases deployment <;> exact calm
  obtain ⟨pages, all, listed, ⟨count, _, ended, whole⟩, perm⟩ := enumerates attempts healthy
  have isShown : ∀ index, pages index = (shown index).map listedTask := by
    intro index
    obtain ⟨attempt, member, answered⟩ :=
      getPage_eq isState agentId positive store (healthy index) index
    rw [List.mem_singleton] at member
    subst member
    have same := (listed index).symm.trans answered
    simpa [listingResponse] using same
  refine ⟨count, ?_, ?_⟩
  · rw [isShown, List.map_eq_nil_iff] at ended
    exact ended
  · have distinct := perm.nodup_iff.mpr (deployment.nodup_listedTask state agentId store)
    rw [whole, List.flatMap_congr fun index _ => isShown index] at distinct
    exact distinct

theorem ties_of_enumeratesOnce (enumerates : deployment.EnumeratesOnce parameter state agentId
    size store) :
    endOffset size (deployment.matching state agentId store).length < 2 ^ 31 ∧
      TiesWithinPages TaskRow.createdAt size (deployment.matching state agentId store) := by
  have pages := EnumeratesOnce.pages isState agentId positive store enumerates
  let rows := deployment.matching state agentId store
  have reaches : ∀ (rank : Int → Nat) {count : Nat}, 0 < rows.length →
      shownPage size (rows.insertionSort (NewestFirst rank)) count = [] →
        count * size < 2 ^ 31 ∧ rows.length ≤ count * size := by
    intro rank count nonempty ended
    have length := List.length_insertionSort (NewestFirst rank) rows
    rw [← length] at nonempty ⊢
    exact shownPage_eq_nil positive nonempty ended
  rcases Nat.eq_zero_or_pos rows.length with empty | nonempty
  · have noRows : deployment.matching state agentId store = [] :=
      List.eq_nil_of_length_eq_zero empty
    rw [noRows]
    refine ⟨?_, fun _ _ member => nomatch member⟩
    rw [List.length_nil, endOffset, Nat.div_eq_of_lt (by omega), Nat.zero_mul]
    decide
  · refine ⟨?_, ?_⟩
    · obtain ⟨count, ended, _⟩ := pages fun _ _ => 0
      obtain ⟨bound, enough⟩ := reaches _ nonempty ended
      exact (endOffset_le positive enough).trans_lt bound
    · by_contra split
      obtain ⟨first, second, index, row, isFirst, isSecond, onFirst, onSecond⟩ :=
        exists_row_on_two_pages (NewestFirst.ordered_insertionSort (fun _ => 0) rows) positive split
      have unique := deployment.nodup_matching state agentId store
      obtain ⟨firstRank, sortsFirst⟩ := NewestFirst.exists_rank unique isFirst
      obtain ⟨secondRank, sortsSecond⟩ := NewestFirst.exists_rank unique isSecond
      obtain ⟨count, ended, distinct⟩ :=
        pages fun page => if page = index then firstRank else secondRank
      obtain ⟨bound, enough⟩ := reaches _ nonempty ended
      have inside : (index + 1) * size < rows.length := by
        rw [← isSecond.perm.length_eq]
        exact lt_length_of_mem_page onSecond
      have next : (index + 1) * size = index * size + size := Nat.succ_mul index size
      have less : index + 1 < count := Nat.lt_of_mul_lt_mul_right (inside.trans_le enough)
      have shownFirst : row ∈ shownPage size (rows.insertionSort (NewestFirst
          (if index = index then firstRank else secondRank))) index := by
        rw [if_pos rfl, sortsFirst, shownPage_eq_page first (by omega) (by omega)]
        exact onFirst
      have shownSecond : row ∈ shownPage size (rows.insertionSort (NewestFirst
          (if index + 1 = index then firstRank else secondRank))) (index + 1) := by
        rw [if_neg (by omega), sortsSecond, shownPage_eq_page second (by omega) (by omega)]
        exact onSecond
      have apart := List.pairwise_iff_getElem.mp (List.nodup_flatMap.mp distinct).2 index
        (index + 1) (by rw [List.length_range]; omega) (by rwa [List.length_range])
        (Nat.lt_succ_self index)
      rw [List.getElem_range, List.getElem_range] at apart
      exact apart (List.mem_map_of_mem shownFirst) (List.mem_map_of_mem shownSecond)

end Pages

/-- Reading by pages lists every task once exactly when the offset of the first empty page is
an `int` and no page ends between tasks that were created at the same time. -/
theorem pages_enumerate_tasks_iff (deployment : Deployment) {parameter : Option String}
    {state : Option TaskState}
    (isState : ControlService.parseQueryParam taskStateFromApi "Invalid task state" parameter =
      .ok state) (agentId : Option String) {size : Nat} (positive : 1 ≤ size) (store : Store) :
    deployment.EnumeratesOnce parameter state agentId size store ↔
      endOffset size (deployment.matching state agentId store).length < 2 ^ 31 ∧
        TiesWithinPages TaskRow.createdAt size (deployment.matching state agentId store) :=
  ⟨ties_of_enumeratesOnce isState agentId positive store, fun both =>
    enumeratesOnce_of_ties isState agentId positive store both.1 both.2⟩

/-- Two tasks arrive at the same time. -/
def sameTick : Store :=
  let create := fun store => (ControlService.handleCreateTask mongoBroker [mongo.calmAttempt 0]
    (.json (.object [("command", .string "true")])) store).2
  create (create Store.empty)

theorem pages_enumerate_sameTick : mongo.EnumeratesOnce none none none 2 sameTick := by
  refine (pages_enumerate_tasks_iff mongo rfl none (by decide) sameTick).mpr ⟨by decide, ?_⟩
  intro index row member
  cases index with
  | zero => exact .inl (by omega)
  | succ index =>
      refine .inr (le_trans List.countP_le_length ?_)
      rw [show (mongo.matching none none sameTick).length = 2 by decide]
      omega

/-- Pages of one task: either of the two may be on both pages. -/
theorem pages_repeat_task : ¬ mongo.EnumeratesOnce none none none 1 sameTick := by
  intro enumerates
  have within := (ties_of_enumeratesOnce rfl none (by decide) sameTick enumerates).2
  obtain ⟨row, isRow⟩ : ∃ row, (mongo.matching none none sameTick)[0]? = some row := ⟨_, rfl⟩
  have split := within 1 row (List.mem_of_getElem? isRow)
  cases isRow
  revert split
  decide

end Deployment

end DistributedComputing
