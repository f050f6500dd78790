/-
Module: Gossipper.Supervisor.JobsList
Purpose: The list of jobs, which the database sorts by the text of their creation, and the
  job that the stop shortcut of a profile takes from it, after
  `internal/supervisor/jobs.go` and `internal/api/v2/server_shortcuts.go`.
Trusted boundary: as for the jobs table; rows with the same text in `created_at` may come in
  any order.
Main exports: StoredJob, list, stopTarget, newest, newestActive, newest_first_iff
-/
import Gossipper.Go.Time
import Gossipper.Lib.Newest
import Gossipper.Supervisor.Jobs

namespace Gossipper.Supervisor

open Go Newest List

/-! ### The list -/

/-- A row that `Create` has stored, with the instant of its creation. -/
structure StoredJob where
  job : Job
  created : Instant
  stored : job.createdAt = created.formatRFC3339Nano
deriving DecidableEq

/-- The limit of a query. -/
def effectiveLimit (limit : Int) : Nat := if limit ≤ 0 then 100 else limit.toNat

/-- `List`: `ORDER BY created_at DESC LIMIT ?`. -/
def list (limit : Int) (rows : List Job) : List Job :=
  (descending (fun job : Job => textKey job.createdAt) rows).take (effectiveLimit limit)

/-- The jobs that the shortcut looks for. -/
def Job.activeFor (kind id : Bytes) (job : Job) : Bool :=
  job.profileKind == kind && job.profileID == id &&
    (job.status == .running || job.status == .pending)

/-- The job that `handleStopProfileShortcut` stops. -/
def stopTarget (kind id : Bytes) (rows : List Job) : Option Job :=
  (list 500 rows).find? (Job.activeFor kind id)

/-! ### By the instant of creation -/

/-- The jobs that were created last, the newest first. -/
def newest (count : Nat) (jobs : List StoredJob) : List StoredJob :=
  (descending (fun entry : StoredJob => entry.created.key) jobs).take count

/-- The active job of a profile that was created last. -/
def newestActive (kind id : Bytes) (jobs : List StoredJob) : Option StoredJob :=
  (descending (fun entry : StoredJob => entry.created.key) jobs).find?
    fun entry => entry.job.activeFor kind id

open StoredJob

theorem StoredJob.job_injective : Function.Injective job := by
  intro first second same
  have created : first.created = second.created := by
    apply format_injective
    change textKey first.created.formatRFC3339Nano = textKey second.created.formatRFC3339Nano
    rw [← first.stored, ← second.stored, same]
  cases first
  cases second
  simp_all

section Rows

variable {jobs : List StoredJob}

/-- The rows sorted by their texts are those of the jobs sorted by their texts. -/
theorem descending_rows (jobs : List StoredJob) :
    descending (fun job : Job => textKey job.createdAt) (jobs.map job) =
      (descending (fun entry : StoredJob => textKey entry.created.formatRFC3339Nano) jobs).map
        job := by
  symm
  apply map_insertionSort
  intro first _ second _
  simp [first.stored, second.stored]

section

variable (distinct : (jobs.map created).Nodup)

include distinct

theorem nodup_times :
    (jobs.map fun entry => entry.created.key).Nodup := by
  have mapped := distinct.map Instant.key_injective
  rwa [map_map] at mapped

theorem nodup_texts :
    (jobs.map fun entry => textKey entry.created.formatRFC3339Nano).Nodup := by
  have mapped := distinct.map format_injective
  rwa [map_map] at mapped

/-- The list holds the newest jobs exactly when none of them is misordered with an older
one. -/
theorem list_eq_newest_iff (limit : Int) :
    list limit (jobs.map job) =
        (newest (effectiveLimit limit) jobs).map job ↔
      ∀ newer ∈ newest (effectiveLimit limit) jobs, ∀ older ∈ jobs,
        older.created.key < newer.created.key → ¬ older.created.Misordered newer.created := by
  rw [list, descending_rows, ← map_take,
    (map_injective_iff.mpr job_injective).eq_iff, newest,
    take_descending_iff (nodup_texts distinct) (nodup_times distinct)]
  constructor
  · intro ordered newer first older member before
    exact (format_lt_iff before).mp (ordered newer first older member before)
  · intro ordered newer first older member before
    exact (format_lt_iff before).mpr (ordered newer first older member before)

/-- With at most 500 jobs, the shortcut takes the newest active job of the profile exactly
when it is not misordered with an older one. -/
theorem stopTarget_eq_newestActive_iff (few : jobs.length ≤ 500) (kind id : Bytes) :
    stopTarget kind id (jobs.map job) =
        (newestActive kind id jobs).map job ↔
      ∀ newer ∈ newestActive kind id jobs, ∀ older ∈ jobs,
        older.job.activeFor kind id = true → older.created.key < newer.created.key →
          ¬ older.created.Misordered newer.created := by
  have all : list 500 (jobs.map job) = (descending
      (fun entry : StoredJob => textKey entry.created.formatRFC3339Nano) jobs).map
        job := by
    rw [list, descending_rows]
    apply take_of_length_le
    rw [length_map, (descending_perm _ jobs).length_eq]
    exact few
  rw [stopTarget, all, find?_map, (Option.map_injective job_injective).eq_iff,
    newestActive]
  refine (find?_descending_iff (fun entry : StoredJob => entry.job.activeFor kind id)
    (nodup_texts distinct) (nodup_times distinct)).trans ?_
  constructor
  · intro ordered newer first older member active before
    exact (format_lt_iff before).mp (ordered newer first older member active before)
  · intro ordered newer first older member active before
    exact (format_lt_iff before).mpr (ordered newer first older member active before)

end

end Rows

/-- The jobs of a list are the newest ones, and the shortcut stops the newest active one,
exactly when no job among them is misordered with an older one. -/
theorem newest_first_iff {jobs : List StoredJob} (distinct : (jobs.map StoredJob.created).Nodup)
    (limit : Int) (kind id : Bytes) :
    (list limit (jobs.map StoredJob.job) =
        (newest (effectiveLimit limit) jobs).map StoredJob.job ∧
      (jobs.length ≤ 500 → stopTarget kind id (jobs.map StoredJob.job) =
        (newestActive kind id jobs).map StoredJob.job)) ↔
    (∀ newer ∈ newest (effectiveLimit limit) jobs, ∀ older ∈ jobs,
        older.created.key < newer.created.key → ¬ older.created.Misordered newer.created) ∧
      (jobs.length ≤ 500 → ∀ newer ∈ newestActive kind id jobs, ∀ older ∈ jobs,
        older.job.activeFor kind id = true → older.created.key < newer.created.key →
          ¬ older.created.Misordered newer.created) := by
  rw [list_eq_newest_iff distinct]
  refine and_congr_right fun _ => forall_congr' fun few => ?_
  exact stopTarget_eq_newestActive_iff distinct few kind id

/-! ### Two jobs in one second -/

section Second

/-- An instant of the first second of a year. -/
def newYear (nanosecond : Nat) (below : nanosecond < 10 ^ 9) : Instant where
  year := 2026
  month := 1
  day := 1
  hour := 0
  minute := 0
  second := 0
  nanosecond := nanosecond
  month_le := by decide
  day_le := by decide
  hour_lt := by decide
  minute_lt := by decide
  second_lt := by decide
  nanosecond_lt := below

/-- A running job of a profile. -/
def runningJob (id : Bytes) (created : Instant) : StoredJob where
  job := {
    id
    profileID := ascii "p"
    profileKind := ascii "client"
    status := .running
    createdAt := created.formatRFC3339Nano }
  created := created
  stored := rfl

/-- A job created on the second. -/
def onSecond : StoredJob := runningJob (ascii "a") (newYear 0 (by decide))

/-- A job created half a second later. -/
def halfLater : StoredJob := runningJob (ascii "b") (newYear 500000000 (by decide))

/-- A job created a quarter of a second before that. -/
def quarterLater : StoredJob := runningJob (ascii "c") (newYear 250000000 (by decide))

/-- The newest of two jobs with fractions is listed and stopped first. -/
theorem half_before_quarter :
    list 1 [quarterLater.job, halfLater.job] = [halfLater.job] ∧
      stopTarget (ascii "client") (ascii "p") [quarterLater.job, halfLater.job] =
        some halfLater.job := by
  have distinct : ([quarterLater, halfLater].map StoredJob.created).Nodup := by decide
  have holds := (newest_first_iff distinct 1 (ascii "client") (ascii "p")).mpr ⟨by decide, by
    intro _ newer found
    cases found
    decide⟩
  exact ⟨holds.1.trans (by decide), (holds.2 (by decide)).trans (by decide)⟩

/-- The job on the second is taken for the newer one. -/
theorem second_before_half :
    ¬ ∀ (jobs : List StoredJob) (limit : Int) (kind id : Bytes),
      (jobs.map StoredJob.created).Nodup →
      list limit (jobs.map StoredJob.job) =
          (newest (effectiveLimit limit) jobs).map StoredJob.job ∧
        (jobs.length ≤ 500 → stopTarget kind id (jobs.map StoredJob.job) =
          (newestActive kind id jobs).map StoredJob.job) := by
  intro always
  have both := always [onSecond, halfLater] 1 (ascii "client") (ascii "p") (by decide)
  exact absurd both.1 (by decide)

end Second

end Gossipper.Supervisor
