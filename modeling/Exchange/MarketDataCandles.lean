import Exchange.Async
import Exchange.Failure
import Mathlib.Logic.Function.Basic
import Mathlib.Data.List.Basic

/-! The cache of the bar that is forming. For each bar that a provider sends, a
call reads the cache and, unless it holds a later bar, writes; nobody waits for
the call, so a bar may arrive while those before it are under way. -/
namespace Exchange.MarketData
open Async Relation

inductive CandleResolution where
  | «1»
  | «5»
  | «15»
  | «30»
  | «60»
  | «240»
  | «1D»
  deriving DecidableEq, Repr

def CandleResolution.text : CandleResolution → String
  | .«1» => "1"
  | .«5» => "5"
  | .«15» => "15"
  | .«30» => "30"
  | .«60» => "60"
  | .«240» => "240"
  | .«1D» => "1D"

/-- Prices are decimal strings. -/
structure MarketCandle where
  symbol : String
  resolution : CandleResolution
  time : ℤ
  openPrice : String
  high : String
  low : String
  close : String
  volume : String
  source : String
  deriving DecidableEq, Repr

def candleKey (symbol : String) (resolution : CandleResolution) : String :=
  "market:candle:" ++ symbol ++ ":" ++ resolution.text

def MarketCandle.key (candle : MarketCandle) : String := candleKey candle.symbol candle.resolution

/-! ## Writing -/

inductive RedisCall where
  | get (key : String)
  | set (key : String) (candle : MarketCandle)

abbrev RedisCall.Reply : RedisCall → Type
  | .get _ => Option MarketCandle
  | .set _ _ => Unit

abbrev CacheM := Async RedisCall RedisCall.Reply Failure

def ask (call : RedisCall) : CacheM call.Reply := Async.call call

/-- What the call throws is logged. -/
def cacheLatestCandle (candle : MarketCandle) : CacheM Unit :=
  tryCatch (do
    let existing ← ask (.get candle.key)
    match existing with
    | some existing =>
      if existing.time > candle.time then return ()
      else ask (.set candle.key candle)
    | none => ask (.set candle.key candle)) fun _ => return ()

abbrev Cache := String → Option MarketCandle

/-- A command that fails may have been carried out. -/
inductive Effect : (call : RedisCall) → Cache → Except Failure call.Reply → Cache → Prop
  | failed {call cache failure} : Effect call cache (.error failure) cache
  | got {key cache} : Effect (.get key) cache (.ok (cache key)) cache
  | put {key candle cache} : Effect (.set key candle) cache (.ok ()) (Function.update cache key (some candle))
  | putUnheard {key candle cache failure} :
      Effect (.set key candle) cache (.error failure) (Function.update cache key (some candle))

/-- The bars received, in order, each with what is left of its call. -/
structure Feed where
  calls : List (MarketCandle × CacheM Unit)
  cache : Cache
  /-- No command has failed, and no entry has expired. -/
  healthy : Bool

def start : Feed := ⟨[], fun _ => none, true⟩

/-- A bar is received whose time is not before that of the bars of its key so far,
the `n`-th call goes on, or an entry of the cache expires. -/
inductive Step (may : Feed → ℕ → RedisCall → Prop) : Feed → Feed → Prop
  | event {x : Feed} {candle : MarketCandle}
      (latest : ∀ earlier ∈ x.calls, earlier.1.key = candle.key → earlier.1.time ≤ candle.time) :
      Step may x ⟨x.calls ++ [(candle, cacheLatestCandle candle)], x.cache, x.healthy⟩
  | command {x : Feed} {n : ℕ} {candle : MarketCandle} {call : RedisCall}
      {next : Except Failure call.Reply → CacheM Unit} {reply : Except Failure call.Reply} {cache : Cache}
      (waiting : x.calls[n]? = some (candle, .await call next)) (allowed : may x n call)
      (made : Effect call x.cache reply cache) : Step may x ⟨x.calls.set n (candle, next reply), cache, x.healthy && reply.isOk⟩
  | expire {x : Feed} {key : String} : Step may x ⟨x.calls, Function.update x.cache key none, false⟩

/-! ## Reading -/

inductive MarketDataSourceName where
  | binance
  | coingecko
  deriving DecidableEq, Repr

def MarketDataSourceName.text : MarketDataSourceName → String
  | .binance => "BINANCE"
  | .coingecko => "COINGECKO"

inductive MarketDataType where
  | tradableReference
  | reference
  deriving DecidableEq, Repr

structure SymbolMeta where
  marketDataSource : MarketDataSourceName
  marketDataType : MarketDataType
  deriving DecidableEq, Repr

structure MarketCandleDto extends MarketCandle where
  stale : Bool
  deriving DecidableEq, Repr

/-- Bars are not stale. -/
def toCandleDto (candle : MarketCandle) (_meta : SymbolMeta) : MarketCandleDto := ⟨candle, false⟩

inductive CandlesLookup where
  | available (symbol : String) (resolution : CandleResolution) (candles : List MarketCandleDto)
  | unavailable (symbol : String) (reason : String)
  deriving DecidableEq, Repr

/-- A failure to read counts as nothing cached. -/
def readCachedLatestCandle (reply : Except Failure (Option MarketCandle)) : Option MarketCandle :=
  match reply with
  | .ok cached => cached
  | .error _ => none

def serviceUnavailableError (message : String) : Failure := .appError message 503 "SERVICE_UNAVAILABLE"

/-- With what the registry has, the provider sends and the cache holds. -/
def getCandles (getSymbolMeta : String → Option SymbolMeta) (provided : Except Failure (List MarketCandle))
    (cached : Except Failure (Option MarketCandle)) (symbol : String) (resolution : CandleResolution) :
    Except Failure CandlesLookup :=
  match getSymbolMeta symbol with
  | none => .error (.notFoundError "Unsupported symbol" "SYMBOL_NOT_FOUND")
  | some symbolMeta =>
    if symbolMeta.marketDataType = .reference then
      .ok (.unavailable symbol "Historical candles are not available for reference-only symbols")
    else
      match provided with
      | .error _ => .error (serviceUnavailableError
          (symbolMeta.marketDataSource.text ++ " market data is temporarily unavailable"))
      | .ok candles =>
        let dtos := candles.map fun candle => toCandleDto candle symbolMeta
        match readCachedLatestCandle cached with
        | none => .ok (.available symbol resolution dtos)
        | some latestCached =>
          if (dtos.getLast?.all fun last => latestCached.time > last.time) then
            .ok (.available symbol resolution (dtos ++ [toCandleDto latestCached symbolMeta]))
          else .ok (.available symbol resolution dtos)

/-! ## What is asked of both -/

/-- The last bar received under a key. -/
def lastEvent (key : String) (calls : List (MarketCandle × CacheM Unit)) : Option MarketCandle :=
  ((calls.map Prod.fst).filter fun candle => candle.key = key).getLast?

/-- Strictly increasing in time. -/
def Increasing (times : List ℤ) : Prop := times.Pairwise (· < ·)

/-- A call writes only as long as no call of a later bar of the key is done. -/
def InOrder (x : Feed) (n : ℕ) (call : RedisCall) : Prop :=
  ∀ key candle, call = .set key candle → ∀ m > n, ∀ later, x.calls[m]? = some later → later.1.key = key →
    ¬later.2.isDone

/-! ## The calls -/

/-- What is left of a call that is to write. -/
def write (candle : MarketCandle) : CacheM Unit := tryCatch (ask (.set candle.key candle)) fun _ => return ()

/-- What is left of a call. -/
inductive Progress (candle : MarketCandle) : CacheM Unit → Prop
  | reading : Progress candle (cacheLatestCandle candle)
  | writing : Progress candle (write candle)
  | done {result : Except Failure Unit} : Progress candle (.done result)

/-- A call is done, and was for this bar. -/
def DoneAt (x : Feed) (n : ℕ) (candle : MarketCandle) : Prop := ∃ result, x.calls[n]? = some (candle, .done result)

/-- What is known of a feed whose writes are in order. -/
structure Kept (x : Feed) : Prop where
  progress : ∀ call ∈ x.calls, Progress call.1 call.2
  /-- The bars are in order of their times. -/
  times : (x.calls.map Prod.fst).Pairwise fun earlier later => earlier.key = later.key → earlier.time ≤ later.time
  /-- What is cached is the bar of a call that is done. -/
  cached : ∀ key candle, x.cache key = some candle → candle.key = key ∧ ∃ n, DoneAt x n candle
  /-- It is at least as late a bar as that of any call that is done. -/
  newest : x.healthy → ∀ n candle, DoneAt x n candle →
    ∃ m ≥ n, ∃ later, DoneAt x m later ∧ later.key = candle.key ∧ x.cache candle.key = some later

/-- The ways a feed whose calls are as they should be can go. -/
inductive Move (x : Feed) : Feed → Prop
  | event {candle : MarketCandle}
      (latest : ∀ earlier ∈ x.calls, earlier.1.key = candle.key → earlier.1.time ≤ candle.time) :
      Move x ⟨x.calls ++ [(candle, cacheLatestCandle candle)], x.cache, x.healthy⟩
  | willWrite {n : ℕ} {candle : MarketCandle} (waiting : x.calls[n]? = some (candle, cacheLatestCandle candle)) :
      Move x ⟨x.calls.set n (candle, write candle), x.cache, x.healthy⟩
  | outdated {n : ℕ} {candle existing : MarketCandle}
      (waiting : x.calls[n]? = some (candle, cacheLatestCandle candle))
      (isCached : x.cache candle.key = some existing) (newer : candle.time < existing.time) :
      Move x ⟨x.calls.set n (candle, .done (.ok ())), x.cache, x.healthy⟩
  | failed {n : ℕ} {candle : MarketCandle} {call : RedisCall} {next : Except Failure call.Reply → CacheM Unit}
      (waiting : x.calls[n]? = some (candle, .await call next)) :
      Move x ⟨x.calls.set n (candle, .done (.ok ())), x.cache, false⟩
  | wrote {n : ℕ} {candle : MarketCandle} {healthy : Bool} (stays : healthy → x.healthy)
      (waiting : x.calls[n]? = some (candle, write candle))
      (inOrder : ∀ m > n, ∀ later, x.calls[m]? = some later → later.1.key = candle.key → ¬later.2.isDone) :
      Move x ⟨x.calls.set n (candle, .done (.ok ())), Function.update x.cache candle.key (some candle), healthy⟩
  | expire {key : String} : Move x ⟨x.calls, Function.update x.cache key none, false⟩

theorem move_of_step (progress : ∀ call ∈ x.calls, Progress call.1 call.2) (step : Step InOrder x y) : Move x y := by
  cases step with
  | event latest => exact .event latest
  | expire => exact .expire
  | @command n candle call next reply cache waiting allowed made =>
    have kind : Progress candle (.await call next) := progress _ (List.mem_of_getElem? waiting)
    generalize isProgram : Async.await call next = program at kind waiting
    cases kind with
    | done => cases isProgram
    | writing =>
      cases isProgram
      cases made with
      | failed =>
        rw [Except.isOk, Except.toBool, Bool.and_false]
        exact .failed waiting
      | put => exact .wrote (fun healthy => (Bool.and_eq_true_iff.mp healthy).1) waiting (allowed _ _ rfl)
      | putUnheard => exact .wrote (fun healthy => (Bool.and_eq_true_iff.mp healthy).1) waiting (allowed _ _ rfl)
    | reading =>
      cases isProgram
      cases made with
      | failed =>
        rw [Except.isOk, Except.toBool, Bool.and_false]
        exact .failed waiting
      | got =>
        rw [Except.isOk, Except.toBool, Bool.and_true]
        cases isCached : x.cache candle.key with
        | none => exact .willWrite waiting
        | some existing =>
          by_cases newer : existing.time > candle.time
          · simp only [Async.bind, if_pos newer]
            exact .outdated waiting isCached newer
          · simp only [Async.bind, if_neg newer]
            exact .willWrite waiting

section
variable {x y : Feed}

theorem getElem?_of_set {l : List α} (isSet : (l.set n new)[m]? = some value) :
    (m = n ∧ value = new) ∨ (m ≠ n ∧ l[m]? = some value) := by
  rw [List.getElem?_set] at isSet
  split at isSet
  · rename_i same
    split at isSet
    · cases isSet
      exact .inl ⟨same.symm, rfl⟩
    · cases isSet
  · rename_i other
    exact .inr ⟨Ne.symm other, isSet⟩

/-- A call that is done stays so. -/
theorem DoneAt.move (done : DoneAt x n candle) (move : Move x y) : DoneAt y n candle := by
  obtain ⟨result, isDone⟩ := done
  have other : ∀ {m : ℕ} {bar : MarketCandle} {call : RedisCall} {next : Except Failure call.Reply → CacheM Unit} (new : MarketCandle × CacheM Unit),
      x.calls[m]? = some (bar, .await call next) → (x.calls.set m new)[n]? = some (candle, .done result) := by
    intro m bar call next new waiting
    rw [List.getElem?_set_ne, isDone]
    rintro rfl
    rw [waiting] at isDone
    cases isDone
  cases move with
  | event latest =>
    have short : n < x.calls.length := (List.getElem?_eq_some_iff.mp isDone).1
    exact ⟨result, by rw [List.getElem?_append_left short, isDone]⟩
  | willWrite waiting => exact ⟨result, other _ waiting⟩
  | outdated waiting _ _ => exact ⟨result, other _ waiting⟩
  | failed waiting => exact ⟨result, other _ waiting⟩
  | wrote _ waiting _ => exact ⟨result, other _ waiting⟩
  | expire => exact ⟨result, isDone⟩

theorem doneAt_set {program : CacheM Unit} {cache : Cache} {healthy : Bool}
    (done : DoneAt ⟨x.calls.set n (candle, program), cache, healthy⟩ m bar) :
    (m = n ∧ bar = candle ∧ ∃ result, program = .done result) ∨ DoneAt x m bar := by
  obtain ⟨result, isDone⟩ := done
  rcases getElem?_of_set isDone with ⟨same, isNew⟩ | ⟨_, before⟩
  · cases isNew
    exact .inl ⟨same, rfl, result, rfl⟩
  · exact .inr ⟨result, before⟩

theorem doneAt_self {result : Except Failure Unit} {cache : Cache} {healthy : Bool}
    (waiting : x.calls[n]? = some (candle, program)) :
    DoneAt ⟨x.calls.set n (candle, .done result), cache, healthy⟩ n candle :=
  ⟨result, List.getElem?_set_self (List.getElem?_eq_some_iff.mp waiting).1⟩

/-- The bars stay those that were received. -/
theorem bars_set {program program' : CacheM Unit} (waiting : x.calls[n]? = some (candle, program)) :
    (x.calls.set n (candle, program')).map Prod.fst = x.calls.map Prod.fst := by
  refine List.ext_getElem? fun m => ?_
  rw [List.getElem?_map, List.getElem?_map]
  by_cases same : n = m
  · subst same
    rw [List.getElem?_set_self (List.getElem?_eq_some_iff.mp waiting).1, waiting]
    rfl
  · rw [List.getElem?_set_ne same]

theorem progress_set {program : CacheM Unit} (progress : ∀ call ∈ x.calls, Progress call.1 call.2)
    (isNext : Progress candle program) (call : MarketCandle × CacheM Unit)
    (member : call ∈ x.calls.set n (candle, program)) : Progress call.1 call.2 := by
  rcases List.mem_or_eq_of_mem_set member with before | rfl
  · exact progress call before
  · exact isNext

/-- Of two bars of a key, the one of the later call is not before the other. -/
theorem Kept.time_le (kept : Kept x) (first : DoneAt x m old) (second : x.calls[n]? = some (new, program))
    (before : m < n) (sameKey : old.key = new.key) : old.time ≤ new.time := by
  obtain ⟨result, isFirst⟩ := first
  obtain ⟨shortFirst, isFirst⟩ := List.getElem?_eq_some_iff.mp isFirst
  obtain ⟨shortSecond, isSecond⟩ := List.getElem?_eq_some_iff.mp second
  have ordered := List.pairwise_iff_getElem.mp kept.times m n (by simpa using shortFirst) (by simpa using shortSecond)
    before
  simp only [List.getElem_map, isFirst, isSecond] at ordered
  exact ordered sameKey

theorem Kept.event (kept : Kept x)
    (latest : ∀ earlier ∈ x.calls, earlier.1.key = candle.key → earlier.1.time ≤ candle.time) :
    Kept ⟨x.calls ++ [(candle, cacheLatestCandle candle)], x.cache, x.healthy⟩ where
  progress call member := by
    rcases List.mem_append.mp member with before | new
    · exact kept.progress call before
    · rw [List.mem_singleton.mp new]
      exact .reading
  times := by
    rw [List.map_append, List.pairwise_append]
    refine ⟨kept.times, List.pairwise_singleton _ _, fun earlier before new isNew => ?_⟩
    rw [List.map_singleton, List.mem_singleton] at isNew
    obtain ⟨call, isCall, rfl⟩ := List.mem_map.mp before
    subst isNew
    exact latest call isCall
  cached key bar isCached := by
    obtain ⟨sameKey, n, done⟩ := kept.cached key bar isCached
    exact ⟨sameKey, n, done.move (.event latest)⟩
  newest healthy n bar done := by
    have before : DoneAt x n bar := by
      obtain ⟨result, isDone⟩ := done
      rcases Nat.lt_or_ge n x.calls.length with short | long
      · exact ⟨result, (List.getElem?_append_left short).symm.trans isDone⟩
      · rw [List.getElem?_append_right long, List.getElem?_singleton] at isDone
        split at isDone
        · cases isDone
        · cases isDone
    obtain ⟨m, le, later, isLater, sameKey, isCached⟩ := kept.newest healthy n bar before
    exact ⟨m, le, later, isLater.move (.event latest), sameKey, isCached⟩

/-- A call goes on, and the cache stays. -/
theorem Kept.set {rest program : CacheM Unit} (kept : Kept x) (waiting : x.calls[n]? = some (candle, rest))
    (isNext : Progress candle program) (healthy : Bool) (stays : healthy → x.healthy)
    (newest : healthy → ∀ result, program = .done result →
      ∃ existing, x.cache candle.key = some existing ∧ candle.time < existing.time)
    (keeps : ∀ m bar, DoneAt x m bar → DoneAt ⟨x.calls.set n (candle, program), x.cache, healthy⟩ m bar) :
    Kept ⟨x.calls.set n (candle, program), x.cache, healthy⟩ where
  progress := progress_set kept.progress isNext
  times := (bars_set waiting).symm ▸ kept.times
  cached key bar isCached := by
    obtain ⟨sameKey, m, done⟩ := kept.cached key bar isCached
    exact ⟨sameKey, m, keeps m bar done⟩
  newest isHealthy m bar done := by
    rcases doneAt_set done with ⟨rfl, rfl, result, isDone⟩ | before
    · -- The bar in the cache has a later time, hence a later call.
      obtain ⟨existing, isCached, newer⟩ := newest isHealthy result isDone
      obtain ⟨sameKey, k, isExisting⟩ := kept.cached bar.key existing isCached
      refine ⟨k, not_lt.mp fun earlier => ?_, existing, keeps k existing isExisting, sameKey, isCached⟩
      exact absurd newer (not_lt.mpr (kept.time_le isExisting waiting earlier sameKey))
    · obtain ⟨k, le, later, isLater, sameKey, isCached⟩ := kept.newest (stays isHealthy) m bar before
      exact ⟨k, le, later, keeps k later isLater, sameKey, isCached⟩

theorem Kept.wrote {healthy : Bool} (kept : Kept x) (stays : healthy → x.healthy)
    (waiting : x.calls[n]? = some (candle, write candle))
    (inOrder : ∀ m > n, ∀ later, x.calls[m]? = some later → later.1.key = candle.key → ¬later.2.isDone) :
    Kept ⟨x.calls.set n (candle, .done (.ok ())), Function.update x.cache candle.key (some candle), healthy⟩ where
  progress := progress_set kept.progress .done
  times := (bars_set waiting).symm ▸ kept.times
  cached key bar isCached := by
    by_cases same : key = candle.key
    · subst same
      cases (Function.update_self _ _ _).symm.trans isCached
      exact ⟨rfl, n, doneAt_self waiting⟩
    · obtain ⟨sameKey, m, done⟩ := kept.cached key bar ((Function.update_of_ne same _ _).symm.trans isCached)
      exact ⟨sameKey, m, done.move (.wrote stays waiting inOrder)⟩
  newest isHealthy m bar done := by
    have wrote := Move.wrote stays waiting inOrder
    rcases doneAt_set done with ⟨rfl, rfl, -⟩ | before
    · exact ⟨m, le_rfl, bar, doneAt_self waiting, rfl, Function.update_self _ _ _⟩
    · by_cases same : bar.key = candle.key
      · obtain ⟨result, isDone⟩ := before
        refine ⟨n, not_lt.mp fun later => inOrder m later _ isDone same rfl, candle, doneAt_self waiting, same.symm, ?_⟩
        rw [same]
        exact Function.update_self _ _ _
      · obtain ⟨k, le, later, isLater, sameKey, isCached⟩ := kept.newest (stays isHealthy) m bar before
        exact ⟨k, le, later, isLater.move wrote, sameKey, (Function.update_of_ne same _ _).trans isCached⟩

theorem Kept.move (kept : Kept x) (move : Move x y) : Kept y := by
  have stays := fun m bar (done : DoneAt x m bar) => done.move move
  cases move with
  | event latest => exact kept.event latest
  | willWrite waiting =>
    refine kept.set waiting .writing _ id (fun _ result isDone => ?_) stays
    cases isDone
  | outdated waiting isCached newer => exact kept.set waiting .done _ id (fun _ _ _ => ⟨_, isCached, newer⟩) stays
  | failed waiting =>
    exact kept.set waiting .done _ (fun never => absurd never Bool.false_ne_true)
      (fun never => absurd never Bool.false_ne_true) stays
  | wrote healthy waiting inOrder => exact kept.wrote healthy waiting inOrder
  | @expire expired =>
    refine ⟨kept.progress, kept.times, fun key bar isCached => ?_, fun never => absurd never Bool.false_ne_true⟩
    by_cases same : key = expired
    · subst same
      cases (Function.update_self _ _ _).symm.trans isCached
    · exact kept.cached key bar ((Function.update_of_ne same _ _).symm.trans isCached)

theorem start_kept : Kept start where
  progress _ member := absurd member List.not_mem_nil
  times := .nil
  cached _ _ isCached := absurd isCached (Option.some_ne_none _).symm
  newest _ n _ done := by
    obtain ⟨result, isDone⟩ := done
    cases isDone

theorem Kept.steps (kept : Kept x) (steps : ReflTransGen (Step InOrder) x y) : Kept y := by
  induction steps with
  | refl => exact kept
  | tail _ step before => exact before.move (move_of_step before.progress step)

/-- What is cached is the bar of this call or of a later one. -/
def CachedFrom (key : String) (n : ℕ) (x : Feed) : Prop :=
  ∀ candle, x.cache key = some candle → ∃ m ≥ n, DoneAt x m candle

theorem CachedFrom.move (cachedFrom : CachedFrom key n x) (done : DoneAt x n old) (isKey : old.key = key)
    (move : Move x y) : CachedFrom key n y := by
  have stays : ∀ candle, x.cache key = some candle → ∃ m ≥ n, DoneAt y m candle := by
    intro candle isCached
    obtain ⟨m, le, isDone⟩ := cachedFrom candle isCached
    exact ⟨m, le, isDone.move move⟩
  cases move with
  | event _ => exact stays
  | willWrite _ => exact stays
  | outdated _ _ _ => exact stays
  | failed _ => exact stays
  | @wrote k candle _ _ waiting inOrder =>
    intro new isCached
    by_cases same : key = candle.key
    · subst same
      cases (Function.update_self _ _ _).symm.trans isCached
      obtain ⟨result, isDone⟩ := done
      exact ⟨k, not_lt.mp fun later => inOrder n later _ isDone isKey rfl, doneAt_self waiting⟩
    · exact stays new ((Function.update_of_ne same _ _).symm.trans isCached)
  | @expire expired =>
    intro new isCached
    by_cases same : key = expired
    · subst same
      cases (Function.update_self _ _ _).symm.trans isCached
    · exact stays new ((Function.update_of_ne same _ _).symm.trans isCached)

theorem CachedFrom.steps (kept : Kept x) (cachedFrom : CachedFrom key n x) (done : DoneAt x n old)
    (isKey : old.key = key) (steps : ReflTransGen (Step InOrder) x y) : CachedFrom key n y ∧ DoneAt y n old := by
  induction steps with
  | refl => exact ⟨cachedFrom, done⟩
  | tail before step now =>
    have move := move_of_step (kept.steps before).progress step
    exact ⟨now.1.move now.2 isKey move, now.2.move move⟩

/-- The last event, with where it was received. -/
theorem lastEvent_some {calls : List (MarketCandle × CacheM Unit)} (isLast : lastEvent key calls = some candle) :
    candle.key = key ∧ ∃ (n : ℕ) (program : CacheM Unit), calls[n]? = some (candle, program) ∧
      ∀ m > n, ∀ later : MarketCandle × CacheM Unit, calls[m]? = some later → later.1.key ≠ key := by
  obtain ⟨before, isFiltered⟩ := List.getLast?_eq_some_iff.mp isLast
  obtain ⟨first, rest, isBars, -, isRest⟩ := List.filter_eq_append_iff.mp isFiltered
  obtain ⟨others, after, rfl, -, isKey, noneAfter⟩ := List.filter_eq_cons_iff.mp isRest
  rw [← List.append_assoc] at isBars
  refine ⟨by simpa using isKey, (first ++ others).length, ?_⟩
  have here : (calls.map Prod.fst)[(first ++ others).length]? = some candle := by
    rw [isBars, List.getElem?_append_right le_rfl, Nat.sub_self]
    rfl
  rw [List.getElem?_map, Option.map_eq_some_iff] at here
  obtain ⟨⟨bar, program⟩, here, rfl⟩ := here
  refine ⟨program, here, fun m after later isLater => ?_⟩
  have isAfter : (calls.map Prod.fst)[m]? = some later.1 := by rw [List.getElem?_map, isLater, Option.map_some]
  rw [isBars, List.getElem?_append_right after.le, List.getElem?_cons, if_neg (by omega)] at isAfter
  simpa using List.filter_eq_nil_iff.mp noneAfter _ (List.mem_of_getElem? isAfter)

theorem lastEvent_none {calls : List (MarketCandle × CacheM Unit)} (isNone : lastEvent key calls = none)
    (member : entry ∈ calls) : entry.1.key ≠ key := by
  have empty := List.filter_eq_nil_iff.mp (List.getLast?_eq_none_iff.mp isNone)
  simpa using empty entry.1 (List.mem_map_of_mem member)

theorem Kept.last (kept : Kept x) (healthy : x.healthy) (done : ∀ call ∈ x.calls, call.2.isDone) (key : String) :
    x.cache key = lastEvent key x.calls := by
  cases isLast : lastEvent key x.calls with
  | none =>
    refine Option.eq_none_iff_forall_ne_some.mpr fun candle isCached => ?_
    obtain ⟨isKey, n, result, isDone⟩ := kept.cached key candle isCached
    exact lastEvent_none isLast (List.mem_of_getElem? isDone) isKey
  | some candle =>
    obtain ⟨rfl, n, program, here, noneAfter⟩ := lastEvent_some isLast
    have isDone : DoneAt x n candle := by
      have ended := done _ (List.mem_of_getElem? here)
      cases program with
      | done result => exact ⟨result, here⟩
      | await call next => cases ended
    obtain ⟨m, le, later, ⟨result, isLater⟩, sameKey, isCached⟩ := kept.newest healthy n candle isDone
    rcases Nat.lt_or_eq_of_le le with after | rfl
    · exact absurd sameKey (noneAfter m after (later, .done result) isLater)
    · cases here.symm.trans isLater
      exact isCached

end

/-! ## The bars returned -/

theorem Increasing.concat {times : List ℤ} (increasing : Increasing times)
    (later : ∀ last, times.getLast? = some last → last < time) : Increasing (times ++ [time]) := by
  refine List.pairwise_append.mpr ⟨increasing, List.pairwise_singleton _ _, fun before member after isAfter => ?_⟩
  rw [List.mem_singleton.mp isAfter]
  cases isLast : times.getLast? with
  | none =>
    rw [List.getLast?_eq_none_iff.mp isLast] at member
    exact absurd member List.not_mem_nil
  | some last =>
    obtain ⟨rest, rfl⟩ := List.getLast?_eq_some_iff.mp isLast
    rcases List.mem_append.mp member with isRest | same
    · exact ((List.pairwise_append.mp increasing).2.2 before isRest last List.mem_cons_self).trans (later last isLast)
    · rw [List.mem_singleton.mp same]
      exact later last isLast

/-- A command, when Redis answers. -/
def perform : (call : RedisCall) → Cache → Except Failure call.Reply × Cache
  | .get key, cache => (.ok (cache key), cache)
  | .set key candle, cache => (.ok (), Function.update cache key (some candle))

/-- The `n`-th call goes on. -/
def advance (n : ℕ) (x : Feed) : Feed :=
  match x.calls[n]? with
  | some (candle, .await call next) =>
    ⟨x.calls.set n (candle, next (perform call x.cache).1), (perform call x.cache).2,
      x.healthy && (perform call x.cache).1.isOk⟩
  | _ => x

theorem perform_effect (call : RedisCall) (cache : Cache) :
    Effect call cache (perform call cache).1 (perform call cache).2 := by
  cases call with
  | get key => exact .got
  | set key candle => exact .put

theorem advance_steps {n : ℕ} {x : Feed} (may : ∀ call, allowed x n call) :
    ReflTransGen (Step allowed) x (advance n x) := by
  unfold advance
  split
  · rename_i waiting
    exact .single (.command waiting (may _) (perform_effect _ _))
  · exact .refl

def bar (time : ℤ) : MarketCandle := ⟨"BTCUSDT", .«1», time, "60000", "60000", "60000", "60000", "1", "BINANCE"⟩

def one : Feed := ⟨[(bar 0, cacheLatestCandle (bar 0))], fun _ => none, true⟩

def received : Feed :=
  ⟨[(bar 0, cacheLatestCandle (bar 0)), (bar 60000, cacheLatestCandle (bar 60000))], fun _ => none, true⟩

end Exchange.MarketData
