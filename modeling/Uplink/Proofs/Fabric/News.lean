/-
Module: Uplink.Proofs.Fabric.News
Purpose: News of successes waits with workers, who tell it to listeners; what an event tells, and what it makes of
  the news.
Main exports: Fabric.news, Fabric.news_step, Fabric.notices, Fabric.Announces, Fabric.Announces.failed,
  Fabric.tellOnWorker_spec, Fabric.workerStep_cases
-/
import Uplink.Proofs.Fabric.Retries
import Uplink.Proofs.Watchdog.Notifier

namespace Uplink

/-! ### News that waits -/

namespace Fabric

variable {fabric before after : Fabric} {number : Nat} {watchdog : Watchdog}

/-- The worker with a number at a watchdog. -/
def worker? (fabric : Fabric) (number worker : Nat) : Option (Worker SuccessNews) :=
  (fabric.files.staffs[number]?).bind fun staff => staff[worker]?

/-- The counts in the news that a worker of a watchdog is not done with, first the news that it is at. -/
def news (fabric : Fabric) (number worker : Nat) : List UInt32 :=
  ((fabric.worker? number worker).elim [] Worker.jobs).map SuccessNews.attempts

theorem worker?_of_staffs (same : after.files.staffs = before.files.staffs) :
    after.worker? = before.worker? := by
  funext number worker
  rw [worker?, same, worker?]

theorem news_of_worker? (same : after.worker? = before.worker?) : after.news = before.news := by
  funext number worker
  rw [news, same, news]

theorem news_of_staffs (same : after.files.staffs = before.files.staffs) : after.news = before.news :=
  news_of_worker? (worker?_of_staffs same)

theorem Still.worker? (still : Still before after) : after.worker? = before.worker? :=
  worker?_of_staffs still.staffs

theorem Still.news (still : Still before after) : after.news = before.news :=
  news_of_staffs still.staffs

theorem worker?_eq (fabric : Fabric) (number worker : Nat) :
    fabric.worker? number worker
      = (fabric.watchdogs[number]?).bind fun watchdog => watchdog.notifier.workers[worker]? := by
  simp only [worker?, files, List.getElem?_map]
  cases fabric.watchdogs[number]? <;> rfl

theorem news_of_getElem? (isThere : fabric.watchdogs[number]? = some watchdog) (worker : Nat) :
    fabric.news number worker = (watchdog.notifier.jobs worker).map SuccessNews.attempts := by
  rw [news, worker?_eq, isThere]
  rfl

/-- Work on the notifier of one watchdog. -/
theorem worker?_changeNotifier (fabric : Fabric) (number : Nat)
    (change : Notifier SuccessNews → Notifier SuccessNews) (other worker : Nat) :
    (fabric.changeNotifier number change).worker? other worker
      = (fabric.watchdogs[other]?).bind fun watchdog =>
        (if number = other then change watchdog.notifier else watchdog.notifier).workers[worker]? := by
  rw [worker?_eq, changeNotifier, changeWatchdog, List.getElem?_modify]
  cases fabric.watchdogs[other]? with
  | none => rfl
  | some found =>
      by_cases same : number = other
      · simp only [same, if_true, Option.map_eq_map, Option.map_some, Option.bind_some]
      · simp only [same, if_false, Option.map_eq_map, Option.map_some, Option.bind_some]

/-- Work on a notifier that is there. -/
theorem changeNotifier_of_getElem? (isThere : fabric.watchdogs[number]? = some watchdog)
    (change : Notifier SuccessNews → Notifier SuccessNews) :
    (fabric.changeNotifier number fun _ => change watchdog.notifier) = fabric.changeNotifier number change := by
  have same : fabric.watchdogs.modify number (fun found => { found with notifier := change watchdog.notifier })
      = fabric.watchdogs.modify number fun found => { found with notifier := change found.notifier } := by
    apply List.ext_getElem?
    intro place
    rw [List.getElem?_modify, List.getElem?_modify]
    by_cases isPlace : number = place
    · rw [← isPlace, isThere]
      rfl
    · simp only [if_neg isPlace]
  simp only [changeNotifier, changeWatchdog, same]

/-- Work on one worker of one watchdog. -/
theorem worker?_changeWorker (fabric : Fabric) (number worker : Nat)
    (change : Worker SuccessNews → Worker SuccessNews) (other another : Nat) :
    (fabric.changeNotifier number fun notifier => notifier.change worker change).worker? other another
      = if number = other ∧ worker = another then (fabric.worker? other another).map change
        else fabric.worker? other another := by
  rw [worker?_changeNotifier, worker?_eq]
  cases fabric.watchdogs[other]? with
  | none => simp only [Option.bind_none, Option.map_none, ite_self]
  | some found =>
      simp only [Option.bind_some]
      by_cases same : number = other
      · simp only [same, if_true, true_and, Notifier.change, List.getElem?_modify]
        cases found.notifier.workers[another]? with
        | none => simp only [Option.map_eq_map, Option.map_none, ite_self]
        | some worker =>
            split
            · rfl
            · rfl
      · simp only [same, if_false, false_and]

theorem news_changeWorker {worker : Nat} {found : Worker SuccessNews}
    (isAt : fabric.worker? number worker = some found) (change : Worker SuccessNews → Worker SuccessNews)
    (other another : Nat) :
    (fabric.changeNotifier number fun notifier => notifier.change worker change).news other another
      = if number = other ∧ worker = another then (change found).jobs.map SuccessNews.attempts
        else fabric.news other another := by
  rw [news, worker?_changeWorker]
  split
  · rename_i same
    rw [← same.1, ← same.2, isAt]
    rfl
  · rfl

/-- A worker that takes waiting news is at it, and is not done with it. -/
theorem news_begin {worker : Nat} {job : SuccessNews} {rest : List SuccessNews}
    (isAt : fabric.worker? number worker = some { queue := job :: rest, running := none }) :
    (fabric.changeNotifier number fun notifier =>
      notifier.change worker fun _ => { queue := rest, running := some job }).news = fabric.news := by
  funext other another
  rw [news_changeWorker isAt]
  split
  · rename_i isPlace
    rw [← isPlace.1, ← isPlace.2, news, isAt]
    rfl
  · rfl

/-- A worker that is done with its news has the news behind it left. -/
theorem news_finish {worker : Nat} {queue : List SuccessNews} {running : SuccessNews}
    (isAt : fabric.worker? number worker = some { queue, running := some running }) (other another : Nat) :
    fabric.news other another
        = (fabric.changeNotifier number fun notifier => notifier.finish worker).news other another
      ∨ fabric.news other another = running.attempts
        :: (fabric.changeNotifier number fun notifier => notifier.finish worker).news other another := by
  simp only [Notifier.finish, news_changeWorker isAt]
  split
  · rename_i same
    rw [← same.1, ← same.2, news, isAt]
    exact .inr rfl
  · exact .inl rfl

/-- A worker that is held up at its news is not done with it. -/
theorem news_hold {worker : Nat} {queue : List SuccessNews} {running held : SuccessNews}
    (isAt : fabric.worker? number worker = some { queue, running := some running })
    (same : held.attempts = running.attempts) :
    (fabric.changeNotifier number fun notifier => notifier.hold worker held).news = fabric.news := by
  funext other another
  simp only [Notifier.hold, news_changeWorker isAt]
  split
  · rename_i isPlace
    rw [← isPlace.1, ← isPlace.2, news, isAt]
    exact congrArg (· :: queue.map SuccessNews.attempts) same
  · rfl

/-- A change in which no worker gets news, and each is done at most with the news that it was at. -/
def Dwindles (before after : Fabric) : Prop :=
  ∀ number worker, after.news number worker = before.news number worker
    ∨ ∃ told, before.news number worker = told :: after.news number worker

theorem Dwindles.of_news (same : after.news = before.news) : Dwindles before after :=
  fun number worker => .inl (congrFun (congrFun same number) worker)

theorem Dwindles.of_same {last : Fabric} (same : after.news = before.news) (dwindles : Dwindles after last) :
    Dwindles before last := by
  intro number worker
  rw [← same]
  exact dwindles number worker

end Fabric

/-! ### What is announced -/

/-- What an observation says that a listener was told: whether of a success, and the count. -/
def Event.notice? : Event → Option (Bool × UInt32)
  | .notified _ success attempts _ _ _ => some (success, attempts)
  | _ => none

namespace Fabric

variable {fabric before after : Fabric} {number : Nat} {watchdog : Watchdog} {notice : Option (Bool × UInt32)}

/-- What the listeners were told so far. -/
def notices (fabric : Fabric) : List (Bool × UInt32) :=
  fabric.roster.journal.events.filterMap Event.notice?

/-- A change in which every listener that is told is told the same. -/
def Announces (before after : Fabric) (notice : Option (Bool × UInt32)) : Prop :=
  ∃ seen, after.notices = before.notices ++ seen ∧ ∀ told ∈ seen, notice = some told

theorem notices_of_deeds (deeds : Deeds before after) : after.notices = before.notices := by
  induction deeds with
  | refl => rfl
  | tail _ deed ih =>
      refine Eq.trans ?_ ih
      cases deed with
      | setTimer | changeWatchdog | changeConnection => rfl
      | setRoster discreet =>
          apply discreet.filterMap
          intro event plain
          cases event with
          | notified => cases plain
          | _ => rfl

namespace Announces

theorem of_notices (same : after.notices = before.notices) : Announces before after notice :=
  ⟨[], by rw [same, List.append_nil], fun _ isSeen => absurd isSeen List.not_mem_nil⟩

theorem of_deeds (deeds : Deeds before after) : Announces before after notice :=
  of_notices (notices_of_deeds deeds)

theorem refl (fabric : Fabric) : Announces fabric fabric notice :=
  of_notices rfl

theorem trans {last : Fabric} (first : Announces before after notice)
    (second : Announces after last notice) : Announces before last notice := by
  obtain ⟨seen, isSeen, told⟩ := first
  obtain ⟨more, isMore, toldMore⟩ := second
  refine ⟨seen ++ more, by rw [isMore, isSeen, List.append_assoc], ?_⟩
  intro one isNew
  rcases List.mem_append.1 isNew with earlier | later
  · exact told one earlier
  · exact toldMore one later

theorem foldl {Entry : Type} {change : Fabric → Entry → Fabric}
    (keeps : ∀ changed entry, Announces changed (change changed entry) notice) (entries : List Entry)
    (fabric : Fabric) : Announces fabric (entries.foldl change fabric) notice := by
  induction entries generalizing fabric with
  | nil => exact refl fabric
  | cons entry rest ih => exact (keeps fabric entry).trans (ih _)

theorem completeConnection (fabric : Fabric) (number : Nat) :
    Announces fabric (fabric.completeConnection number) notice := by
  simp only [Fabric.completeConnection]
  split
  · exact refl fabric
  · rename_i found _
    have set : Announces fabric { fabric with
        connections := fabric.connections.set number found.setComplete.1 } notice := of_notices rfl
    exact set.trans (of_deeds (deeds_reportCompletion number _ _))

theorem beginObserver (fabric : Fabric) (number : Nat) (success : Bool) (attempts : UInt32)
    (onWorker : Bool) (observer : Observer) :
    Announces fabric (fabric.beginObserver number success attempts onWorker observer)
      (some (success, attempts)) := by
  simp only [Fabric.beginObserver]
  split
  · exact refl fabric
  · refine ⟨[(success, attempts)], List.filterMap_append, ?_⟩
    intro told isTold
    rw [List.mem_singleton.1 isTold]

theorem tell (fabric : Fabric) (number : Nat) (success : Bool) (attempts : UInt32) (onWorker : Bool)
    (listener : Listener) :
    Announces fabric (fabric.tell number success attempts onWorker listener) (some (success, attempts)) := by
  cases listener with
  | completion connection =>
      simp only [Fabric.tell]
      split
      · exact completeConnection fabric connection
      · exact refl fabric
  | observer observer =>
      exact (beginObserver fabric number success attempts onWorker observer).trans
        (of_deeds (deeds_finishObserver _ number success attempts observer))

/-- Every listener hears of a failure with the count of the attempt that has failed. -/
theorem failed (fabric : Fabric) (attempt : Attempt) (error : TransportError) :
    Announces fabric (fabric.failed attempt error) (some (false, attempt.attempts)) := by
  have notified : ∀ fabric : Fabric,
      Announces fabric (fabric.notifyFailure attempt.watchdog attempt.attempts)
        (some (false, attempt.attempts)) := by
    intro fabric
    simp only [Fabric.notifyFailure]
    split
    · exact refl fabric
    · exact foldl (fun changed listener => tell changed _ false _ false listener) _ fabric
  simp only [Fabric.failed]
  split
  · refine Announces.trans ?_ (of_deeds (deeds_onDisconnected _ attempt.watchdog))
    split
    · exact (of_deeds (.log fabric _)).trans (notified _)
    · exact of_deeds (.log fabric _)
  · exact refl fabric

theorem issue (fabric : Fabric) (number : Nat) (origin : Origin) (watchdog : Watchdog) :
    Announces fabric (fabric.issue number origin watchdog) notice :=
  of_notices (List.filterMap_append.trans (List.append_nil _))

theorem fire (fabric : Fabric) (index : Nat) : Announces fabric (fabric.fire index) notice := by
  unfold Fabric.fire
  split
  · rename_i released number isReleased
    obtain ⟨rfl, -⟩ := Prod.mk.inj isReleased
    simp only [beginRetry]
    split
    · exact .of_notices rfl
    · split
      · exact .issue _ number .retry _
      · exact .of_notices rfl
  · rename_i released outcome isReleased
    obtain ⟨rfl, -⟩ := Prod.mk.inj isReleased
    exact .of_notices rfl

end Announces

/-! ### Workers that tell news -/

/-- A worker that is at some news tells every listener the count in it.  Afterwards it is done with the news, or
an observer holds it up. -/
theorem tellOnWorker_spec {worker : Nat} {queue : List SuccessNews} {running : SuccessNews}
    (isAt : fabric.worker? number worker = some { queue, running := some running })
    (listeners : List Listener) :
    Dwindles fabric (fabric.tellOnWorker number worker running.attempts listeners)
      ∧ Announces fabric (fabric.tellOnWorker number worker running.attempts listeners)
        (some (true, running.attempts)) := by
  have still : ∀ {before after : Fabric}, Still before after →
      after.worker? number worker = before.worker? number worker :=
    fun same => congrFun (congrFun same.worker? number) worker
  -- Telling one listener leaves the worker where it is.
  induction listeners generalizing fabric with
  | nil =>
      refine ⟨fun other another => ?_, .of_notices rfl⟩
      rcases news_finish isAt other another with same | isDone
      · exact .inl same.symm
      · exact .inr ⟨running.attempts, isDone⟩
  | cons listener rest ih =>
      cases listener with
      | completion connection =>
          have completed := Still.completeConnection fabric connection
          obtain ⟨dwindles, announces⟩ := ih ((still completed).trans isAt)
          exact ⟨.of_same (completed.news) dwindles,
            (Announces.completeConnection fabric connection).trans announces⟩
      | observer observer =>
          let begun := fabric.beginObserver number true running.attempts true observer
          have begins : Still fabric begun := .beginObserver fabric number true running.attempts true observer
          have announced : Announces fabric begun (some (true, running.attempts)) :=
            .beginObserver fabric number true running.attempts true observer
          have stillAt := (still begins).trans isAt
          simp only [tellOnWorker]
          split
          · let held : SuccessNews := { attempts := running.attempts, held := some (observer, rest) }
            have sameCount : held.attempts = running.attempts := rfl
            exact ⟨.of_news ((news_hold stillAt sameCount).trans (begins.news)),
              announced.trans (.of_notices rfl)⟩
          · have finishes := Still.finishObserver begun number true running.attempts observer
            obtain ⟨dwindles, announces⟩ := ih ((still finishes).trans stillAt)
            constructor
            case left => exact .of_same ((begins.trans finishes).news) dwindles
            case right =>
              have finished := deeds_finishObserver begun number true running.attempts observer
              exact announced.trans ((Announces.of_deeds finished).trans announces)

/-- One step of a worker: it does nothing, or it tells listeners the count in the first news that it is not done
with. -/
theorem workerStep_cases (fabric : Fabric) (number worker : Nat) :
    fabric.workerStep number worker = fabric
      ∨ ∃ (turned : Fabric) (queue : List SuccessNews) (running : SuccessNews) (listeners : List Listener),
        turned.worker? number worker = some { queue, running := some running }
          ∧ turned.news = fabric.news ∧ turned.notices = fabric.notices
          ∧ fabric.workerStep number worker
            = turned.tellOnWorker number worker running.attempts listeners := by
  cases isThere : fabric.watchdogs[number]? with
  | none =>
      simp only [workerStep, isThere]
      exact .inl trivial
  | some watchdog =>
      have isWorker : fabric.worker? number worker = watchdog.notifier.workers[worker]? := by
        rw [worker?_eq, isThere, Option.bind_some]
      cases isHeld : watchdog.heldBy worker with
      | some holding =>
          obtain ⟨observer, rest⟩ := holding
          obtain ⟨⟨attempts, held⟩, isJob, rfl⟩ := Option.bind_eq_some_iff.1 isHeld
          obtain ⟨⟨queue, running⟩, isFound, rfl⟩ := Option.bind_eq_some_iff.1 isJob
          rw [Notifier.jobOf] at isJob
          simp only [workerStep, isThere, isJob]
          split
          · let turned := fabric.finishObserver number true attempts observer
            have finishes : Still fabric turned := .finishObserver fabric number true attempts observer
            have isTurned : turned.worker? number worker = some
                { queue, running := some { attempts, held := some (observer, rest) } } := by
              rw [finishes.worker?, isWorker, isFound]
            exact .inr ⟨turned, queue, _, rest, isTurned, finishes.news,
              notices_of_deeds (deeds_finishObserver fabric number true attempts observer), rfl⟩
          · exact .inl rfl
      | none =>
          rw [workerStep_of_unheld isThere isHeld, beginNews]
          rcases Notifier.begin_cases watchdog.notifier worker with idle | ⟨job, rest, isWaiting, begins⟩
          · rw [idle]
            exact .inl rfl
          · rw [begins]
            have isAt := isWorker.trans isWaiting
            let taken := fabric.changeNotifier number fun notifier =>
              notifier.change worker fun _ => { queue := rest, running := some job }
            have isTaken : taken.worker? number worker = some { queue := rest, running := some job } := by
              rw [worker?_changeWorker, if_pos ⟨rfl, rfl⟩, isAt]
              rfl
            simp only [changeNotifier_of_getElem? isThere fun notifier =>
              notifier.change worker fun _ => { queue := rest, running := some job }]
            refine .inr ⟨taken, rest, job, if watchdog.started then watchdog.listeners else [], isTaken,
              news_begin isAt, rfl, ?_⟩
            split <;> rfl

/-! ### What a step does to the news -/

/-- News of a success waits behind all other news of one worker, or is dropped. -/
theorem news_notifySuccess (fabric : Fabric) (number : Nat) (attempts : UInt32) (other worker : Nat) :
    (fabric.notifySuccess number attempts).news other worker = fabric.news other worker
      ∨ (fabric.notifySuccess number attempts).news other worker = fabric.news other worker ++ [attempts] := by
  rcases level_notifySuccess fabric number attempts with level | ⟨watchdog, isThere, level⟩
  · rw [news_of_staffs level.still.staffs]
    exact .inl rfl
  · rw [news_of_staffs level.still.staffs]
    by_cases same : number = other
    · subst same
      have passed : (fabric.changeNotifier number fun _ =>
          (watchdog.notifier.submit { attempts, held := none }).1).watchdogs[number]?
            = some { watchdog with notifier := (watchdog.notifier.submit { attempts, held := none }).1 } := by
        simp only [changeNotifier, changeWatchdog, List.getElem?_modify_eq, isThere]
        rfl
      rw [news_of_getElem? passed, news_of_getElem? isThere]
      rcases watchdog.notifier.jobs_submit { attempts, held := none } worker with dropped | waits
      · rw [dropped]
        exact .inl rfl
      · rw [waits, List.map_append]
        exact .inr rfl
    · rw [news, worker?_changeNotifier, news, worker?_eq]
      simp only [if_neg same]
      exact .inl trivial

/-- When an attempt ends, at most its own count becomes news. -/
theorem news_settle (fabric : Fabric) (place : Nat) (outcome : Outcome) (number worker : Nat) :
    (fabric.settle place outcome).1.news number worker = fabric.news number worker
      ∨ ∃ attempt, fabric.underWay[place]? = some attempt
        ∧ (fabric.settle place outcome).1.news number worker
          = fabric.news number worker ++ [attempt.attempts] := by
  cases isThere : fabric.underWay[place]? with
  | none =>
      simp only [settle, isThere]
      exact .inl trivial
  | some attempt =>
      let ended : Fabric := { fabric with underWay := fabric.underWay.eraseIdx place }
      have up : ∀ flaps channel,
          let after := (ended.establish attempt.watchdog flaps).1.succeeded attempt channel
          after.news number worker = fabric.news number worker
            ∨ after.news number worker = fabric.news number worker ++ [attempt.attempts] := by
        intro flaps channel
        have established : (ended.establish attempt.watchdog flaps).1.news = fabric.news :=
          news_of_staffs (congrArg Files.staffs (files_establish ended attempt.watchdog flaps))
        rw [← established]
        simp only [succeeded]
        split
        · exact news_notifySuccess (Fabric.log _ _) attempt.watchdog attempt.attempts number worker
        · exact news_notifySuccess _ attempt.watchdog attempt.attempts number worker
      simp only [settle, isThere, Option.some.injEq, exists_eq_left']
      cases outcome with
      | established => exact up false _
      | flapped => exact up true _
      | failed error =>
          refine .inl ?_
          rcases failed_cases ended attempt error with ⟨-, same⟩ | ⟨-, told, still, -, -, same⟩
          · exact congrFun (congrFun (news_of_staffs (congrArg (·.files.staffs) same)) number) worker
          · have lost : (told.onDisconnected attempt.watchdog).files = told.files := by
              rw [(level_onDisconnected told attempt.watchdog).files, files_lose]
            dsimp only
            rw [same, news_of_staffs (congrArg Files.staffs lost), still.news]
            rfl

/-- Only a worker that goes on and an attempt that ends touch the news. -/
theorem news_step (fabric : Fabric) (event : FabricEvent) (number worker : Nat) :
    (fabric.step event).news number worker = fabric.news number worker
      ∨ (∃ place outcome attempt, event = .settle place outcome ∧ fabric.underWay[place]? = some attempt
        ∧ (fabric.step event).news number worker = fabric.news number worker ++ [attempt.attempts])
      ∨ ∃ told, fabric.news number worker = told :: (fabric.step event).news number worker := by
  have quiet : (fabric.step event).files.staffs = fabric.files.staffs →
      (fabric.step event).news number worker = fabric.news number worker :=
    fun same => congrFun (congrFun (news_of_staffs same) number) worker
  cases event with
  | settle place outcome =>
      rcases news_settle fabric place outcome number worker with same | ⟨attempt, isThere, grown⟩
      · exact .inl same
      · exact .inr (.inl ⟨place, outcome, attempt, rfl, isThere, grown⟩)
  | workerStep watchdog worker =>
      rcases workerStep_cases fabric watchdog worker with idle | ⟨turned, _, _, listeners, isAt, same, -, tells⟩
      · exact .inl (by rw [step, idle])
      · rw [step, tells, ← same]
        rcases (tellOnWorker_spec isAt listeners).1 number _ with kept | isDone
        · exact .inl kept
        · exact .inr (.inr isDone)
  | active watchdog channel =>
      refine .inl (quiet (congrArg Files.staffs ?_))
      exact (level_channelActive fabric watchdog channel).files.trans (files_reset fabric watchdog)
  | inactive watchdog channel =>
      refine .inl (quiet (congrArg Files.staffs ?_))
      exact (level_channelInactive fabric watchdog channel).files.trans (files_lose fabric watchdog)
  | close channel => exact .inl (quiet (congrArg Files.staffs (files_close fabric channel)))
  | stopTimer => exact .inl rfl
  | _ => exact .inl (quiet (Still.step fabric rfl).staffs)

end Fabric

end Uplink
