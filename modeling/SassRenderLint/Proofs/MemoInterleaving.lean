/-
Module: SassRenderLint.Proofs.MemoInterleaving
Layer: Proofs
Purpose: What callers of a table can rely on, in whatever order their steps come. At each step the table
  is what the history since the last clearing makes it: for each key the first value that was stored
  there. Each computation that is under way or has ended belongs to one lookup that missed. Both follow
  from what one step does, and so does all that is said of whole runs.
Main exports: Memo.firstStored, Memo.sinceClear, Memo.Trace, Memo.Trace.get?_eq, Memo.System.Sound,
  Memo.System.sound_run, Memo.interleaved_lookups_agree
-/
import Mathlib.Data.Finset.Card
import Mathlib.Data.List.DropRight
import SassRenderLint.Proofs.LookupMachine

namespace SassRenderLint

namespace Memo

variable {σ κ ν ε : Type}

/-! ### Histories -/

def Event.isClear : Event κ ν → Bool
  | .cleared => true
  | _ => false

def Event.isMiss : Event κ ν → Bool
  | .missed _ => true
  | _ => false

def Event.ends (call : Nat) : Event κ ν → Bool
  | .stored c _ _ _ => c = call
  | .failed c _ => c = call
  | _ => false

/-- The key for which an event completes a store. -/
def Event.storedKey : Event κ ν → Option κ
  | .stored _ key _ _ => some key
  | _ => none

def storedKeys (history : List (Event κ ν)) : List κ := history.filterMap Event.storedKey

/-- What has happened since the table was last cleared. -/
def sinceClear (history : List (Event κ ν)) : List (Event κ ν) := history.rtakeWhile fun e => !e.isClear

/-- An event that clears leaves nothing; any other comes on top. -/
theorem sinceClear_concat (history : List (Event κ ν)) (e : Event κ ν) :
    sinceClear (history ++ [e]) = if e.isClear then [] else sinceClear history ++ [e] := by
  rw [sinceClear, List.rtakeWhile_concat]
  cases e.isClear <;> rfl

/-- Without a clearing, everything has happened since the beginning. -/
theorem sinceClear_eq_self {history : List (Event κ ν)} (noClear : ∀ e ∈ history, e.isClear = false) :
    sinceClear history = history := by
  refine List.rtakeWhile_eq_self_iff.2 ?_
  intro e mem
  rw [noClear e mem]
  rfl

variable [DecidableEq κ] {slot : Slot σ (Memo κ ν)}

/-- The value that an event stores for a key. -/
def Event.storedFor (key : κ) : Event κ ν → Option ν
  | .stored _ other made _ => if other = key then some made else none
  | _ => none

theorem Event.storedFor_eq_none {e : Event κ ν} (storesNothing : e.storedKey = none) (key : κ) :
    e.storedFor key = none := by
  cases e with
  | stored call other made kept => cases storesNothing
  | hit | missed | failed | cleared => rfl

/-- The value that was stored first for a key. -/
def firstStored (key : κ) (history : List (Event κ ν)) : Option ν := history.findSome? (Event.storedFor key)

/-- What was stored earlier is first. -/
theorem firstStored_append (key : κ) (first second : List (Event κ ν)) :
    firstStored key (first ++ second) = (firstStored key first).or (firstStored key second) :=
  List.findSome?_append

/-! ### Tables -/

def keys (m : Memo κ ν) : List κ := m.entries.map Prod.fst

theorem get?_eq_none_iff {m : Memo κ ν} {key : κ} : m.get? key = none ↔ key ∉ m.keys := by
  simp only [get?, keys, Option.map_eq_none_iff, List.find?_eq_none, List.mem_map, decide_eq_true_eq]
  constructor
  · rintro absent ⟨entry, mem, same⟩
    exact absent entry mem same
  · intro absent entry mem same
    exact absent ⟨entry, mem, same⟩

/-- What a store gives back is the value of the key from then on; other keys keep theirs. -/
theorem get?_store (m : Memo κ ν) (key other : κ) (value : ν) :
    (m.store key value).2.get? other = if other = key then some (m.store key value).1 else m.get? other := by
  cases found : m.get? key with
  | some stored =>
      simp only [store, found]
      split
      · rename_i same
        rw [same, found]
      · rfl
  | none =>
      simp only [store, found]
      rw [get?, List.find?_append]
      by_cases same : other = key
      · subst same
        rw [get?, Option.map_eq_none_iff] at found
        simp [found]
      · have differs : ¬ key = other := fun eq => same eq.symm
        simp [same, differs, get?]

/-- A store gives what the table had for the key, or else the value. -/
theorem store_fst (m : Memo κ ν) (key : κ) (value : ν) : (m.store key value).1 = (m.get? key).getD value := by
  cases found : m.get? key <;> simp [store, found]

/-- A store gives a value to one key more at most. -/
theorem mem_keys_store {m : Memo κ ν} {key other : κ} {value : ν} :
    other ∈ (m.store key value).2.keys ↔ other ∈ m.keys ∨ other = key := by
  have present : ∀ n : Memo κ ν, other ∈ n.keys ↔ n.get? other ≠ none := by
    intro n
    rw [ne_eq, get?_eq_none_iff, Decidable.not_not]
  rw [present, present, get?_store]
  split
  · rename_i same
    simp [same]
  · rename_i differs
    simp [differs]

/-- No key gets two entries. -/
theorem nodup_keys_store {m : Memo κ ν} (distinct : m.keys.Nodup) (key : κ) (value : ν) :
    (m.store key value).2.keys.Nodup := by
  cases found : m.get? key with
  | some stored =>
      simp only [store, found]
      exact distinct
  | none =>
      have appended : (m.store key value).2.keys = m.keys.concat key := by simp [store, found, keys]
      rw [appended]
      exact distinct.concat (get?_eq_none_iff.1 found)

/-! ### Traces -/

/-- An event can happen after a history that made the table `m`, and makes it `after`. -/
def Event.Fits (history : List (Event κ ν)) (m : Memo κ ν) : Event κ ν → Memo κ ν → Prop
  | .hit key value, after => m.get? key = some value ∧ after = m
  | .missed key, after => m.get? key = none ∧ after = m
  | .stored call key made kept, after => history[call]? = some (.missed key) ∧ (kept, after) = m.store key made
  | .failed call key, after => history[call]? = some (.missed key) ∧ after = m
  | .cleared, after => after = Memo.empty

/-- What an event can do to the table: nothing, a store, or clearing it. -/
theorem Event.Fits.effect {history : List (Event κ ν)} {m after : Memo κ ν} {e : Event κ ν}
    (fits : e.Fits history m after) :
    (e.isClear = false ∧ e.storedKey = none ∧ after = m) ∨
      (∃ call key made kept, e = .stored call key made kept ∧ history[call]? = some (.missed key) ∧
        (kept, after) = m.store key made) ∨
      (e = .cleared ∧ after = Memo.empty) := by
  cases e with
  | hit key value => exact Or.inl ⟨rfl, rfl, fits.2⟩
  | missed key => exact Or.inl ⟨rfl, rfl, fits.2⟩
  | stored call key made kept => exact Or.inr (Or.inl ⟨call, key, made, kept, rfl, fits.1, fits.2⟩)
  | failed call key => exact Or.inl ⟨rfl, rfl, fits.2⟩
  | cleared => exact Or.inr (Or.inr ⟨rfl, fits⟩)

/-- A history that can happen to a table that was empty at first, and the table that it makes. -/
inductive Trace : List (Event κ ν) → Memo κ ν → Prop where
  | start : Trace [] Memo.empty
  | next {history : List (Event κ ν)} {m after : Memo κ ν} {e : Event κ ν} :
      Trace history m → e.Fits history m after → Trace (history ++ [e]) after

namespace Trace

/-- The table holds for each key the value that was stored first since it was cleared. -/
theorem get?_eq {history : List (Event κ ν)} {m : Memo κ ν} (trace : Trace history m) (key : κ) :
    m.get? key = firstStored key (sinceClear history) := by
  induction trace with
  | start => rfl
  | @next history m after e _ fits ih =>
      have passes : ∀ e : Event κ ν, e.isClear = false → firstStored key (sinceClear (history ++ [e])) =
          (m.get? key).or (e.storedFor key) := by
        intro e keeps
        rw [sinceClear_concat, keeps, if_neg Bool.false_ne_true, firstStored_append, ← ih]
        exact congrArg _ (List.findSome?_singleton)
      rcases fits.effect with ⟨keeps, storesNothing, rfl⟩ | ⟨call, k, made, kept, rfl, _, stores⟩ | ⟨rfl, rfl⟩
      · rw [passes _ keeps, Event.storedFor_eq_none storesNothing, Option.or_none]
      · have table : after = (m.store k made).2 := congrArg Prod.snd stores
        rw [passes _ rfl, table, get?_store, store_fst, Event.storedFor]
        by_cases same : key = k
        · subst same
          cases m.get? key <;> simp
        · have differs : ¬ k = key := fun eq => same eq.symm
          rw [if_neg same, if_neg differs, Option.or_none]
      · rw [sinceClear_concat]
        rfl

/-- The keys of the table are those for which a store was completed since it was cleared, each once. -/
theorem keys_eq {history : List (Event κ ν)} {m : Memo κ ν} (trace : Trace history m) :
    m.keys.Nodup ∧ ∀ key, key ∈ m.keys ↔ key ∈ storedKeys (sinceClear history) := by
  induction trace with
  | start => exact ⟨List.nodup_nil, fun _ => Iff.rfl⟩
  | @next history m after e _ fits ih =>
      obtain ⟨distinct, same⟩ := ih
      have passes : ∀ e : Event κ ν, e.isClear = false →
          storedKeys (sinceClear (history ++ [e])) = storedKeys (sinceClear history) ++ e.storedKey.toList := by
        intro e keeps
        rw [sinceClear_concat, keeps, if_neg Bool.false_ne_true, storedKeys, List.filterMap_append]
        cases stores : e.storedKey <;> simp [storedKeys, stores]
      rcases fits.effect with ⟨keeps, storesNothing, rfl⟩ | ⟨call, k, made, kept, rfl, _, stores⟩ | ⟨rfl, rfl⟩
      · rw [passes _ keeps, storesNothing, Option.toList_none, List.append_nil]
        exact ⟨distinct, same⟩
      · have table : after = (m.store k made).2 := congrArg Prod.snd stores
        rw [passes _ rfl, table, Event.storedKey, Option.toList_some]
        refine ⟨nodup_keys_store distinct k made, ?_⟩
        intro key
        rw [mem_keys_store, same, List.mem_append, List.mem_singleton]
      · rw [sinceClear_concat]
        exact ⟨List.nodup_nil, fun _ => Iff.rfl⟩

/-- So many keys have a value as have had a store completed since the table was cleared. -/
theorem size_eq {history : List (Event κ ν)} {m : Memo κ ν} (trace : Trace history m) :
    m.size = (storedKeys (sinceClear history)).toFinset.card := by
  obtain ⟨distinct, same⟩ := trace.keys_eq
  have sameKeys : (storedKeys (sinceClear history)).toFinset = m.keys.toFinset := by
    ext key
    rw [List.mem_toFinset, List.mem_toFinset, same]
  rw [sameKeys, List.toFinset_card_of_nodup distinct, keys, List.length_map]
  rfl

/-- A value in the table was made by the computation of a lookup of its key, and has been stored since
    the table was last cleared. -/
theorem exists_stored {history : List (Event κ ν)} {m : Memo κ ν} (trace : Trace history m) {key : κ} {value : ν}
    (found : m.get? key = some value) :
    ∃ i call : Nat, history[i]? = some (.stored call key value value) ∧ history[call]? = some (.missed key) ∧ call < i ∧
      ∀ j : Nat, i ≤ j → history[j]? ≠ some .cleared := by
  induction trace generalizing value with
  | start => cases found
  | @next history m after e _ fits ih =>
      have stays : e.isClear = false → m.get? key = some value →
          ∃ i call : Nat, (history ++ [e])[i]? = some (.stored call key value value) ∧
            (history ++ [e])[call]? = some (.missed key) ∧ call < i ∧
            ∀ j : Nat, i ≤ j → (history ++ [e])[j]? ≠ some .cleared := by
        intro keeps had
        obtain ⟨i, call, stored, missed, before, unclear⟩ := ih had
        have inside := (List.getElem?_eq_some_iff.1 stored).1
        refine ⟨i, call, ?_, ?_, before, ?_⟩
        · rw [List.getElem?_append_left inside]
          exact stored
        · rw [List.getElem?_append_left (Nat.lt_trans before inside)]
          exact missed
        · intro j later clear
          rcases Nat.lt_or_ge j history.length with earlier | last
          · rw [List.getElem?_append_left earlier] at clear
            exact unclear j later clear
          · rw [List.getElem?_append_right last] at clear
            have same := List.mem_singleton.1 (List.mem_of_getElem? clear)
            rw [← same] at keeps
            cases keeps
      rcases fits.effect with ⟨keeps, _, rfl⟩ | ⟨call, k, made, kept, rfl, missed, stores⟩ | ⟨rfl, rfl⟩
      · exact stays keeps found
      · have table : after = (m.store k made).2 := congrArg Prod.snd stores
        have kept_eq : kept = (m.store k made).1 := congrArg Prod.fst stores
        rw [table, get?_store] at found
        split at found
        · rename_i same
          subst same
          cases had : m.get? key with
          | some old =>
              rw [store_fst, had] at found
              exact stays rfl (had.trans found)
          | none =>
              -- This very store is the first one.
              rw [store_fst, had] at found kept_eq
              cases found
              cases kept_eq
              have inside := (List.getElem?_eq_some_iff.1 missed).1
              refine ⟨history.length, call, List.getElem?_concat_length, ?_, inside, ?_⟩
              · rw [List.getElem?_append_left inside]
                exact missed
              · intro j later clear
                rw [List.getElem?_append_right later] at clear
                cases List.mem_singleton.1 (List.mem_of_getElem? clear)
        · exact stays rfl found
      · cases found

/-- Each event of a history fits the table that the history made up to then. -/
theorem fits_of_getElem? {history : List (Event κ ν)} {m : Memo κ ν} (trace : Trace history m) {i : Nat}
    {e : Event κ ν} (happened : history[i]? = some e) :
    ∃ before after, Trace (history.take i) before ∧ e.Fits (history.take i) before after ∧
      Trace (history.take (i + 1)) after := by
  induction trace with
  | start => cases happened
  | @next history m after last trace fits ih =>
      have inside : i < (history ++ [last]).length := (List.getElem?_eq_some_iff.1 happened).1
      rw [List.length_append, List.length_singleton] at inside
      rcases Nat.lt_succ_iff_lt_or_eq.1 inside with earlier | rfl
      · rw [List.getElem?_append_left earlier] at happened
        rw [List.take_append_of_le_length (Nat.le_of_lt earlier), List.take_append_of_le_length earlier]
        exact ih happened
      · rw [List.getElem?_concat_length] at happened
        cases happened
        rw [List.take_left, List.take_of_length_le (by simp)]
        exact ⟨m, after, trace, fits, trace.next fits⟩

end Trace

/-! ### Steps -/

/-- A place in a history at which a lookup missed counts as one computation, any other as none. -/
def begun (history : List (Event κ ν)) (call : Nat) : Nat := (history[call]?.any Event.isMiss).toNat

omit [DecidableEq κ] in
/-- Only the newest event can be a computation that has just begun. -/
theorem begun_concat (history : List (Event κ ν)) (e : Event κ ν) (call : Nat) :
    begun (history ++ [e]) call = begun history call + (decide (call = history.length) && e.isMiss).toNat := by
  rcases Nat.lt_trichotomy call history.length with earlier | rfl | later
  · have differs : ¬ call = history.length := by omega
    rw [begun, List.getElem?_append_left earlier, decide_eq_false differs]
    rfl
  · rw [begun, begun, List.getElem?_concat_length, List.getElem?_eq_none (Nat.le_refl _), decide_eq_true rfl]
    simp
  · have differs : ¬ call = history.length := by omega
    have outside : (history ++ [e]).length ≤ call := by
      rw [List.length_append, List.length_singleton]
      exact later
    rw [begun, begun, List.getElem?_eq_none outside, List.getElem?_eq_none (Nat.le_of_lt later),
      decide_eq_false differs]
    rfl

namespace Thread

/-- The lookups that a caller is inside of have missed. -/
def Known (history : List (Event κ ν)) (t : Thread slot ε) : Prop :=
  ∀ frame ∈ t.frames, history[frame.call]? = some (.missed frame.key)

/-- How many computations of a lookup a caller has under way. -/
def inside (t : Thread slot ε) (call : Nat) : Nat := t.frames.countP fun frame => frame.call = call

omit [DecidableEq κ] in
/-- What was known of a lookup stays known. -/
theorem Known.append {history : List (Event κ ν)} {t : Thread slot ε} (known : t.Known history)
    (more : List (Event κ ν)) : t.Known (history ++ more) := by
  intro frame mem
  have missed := known frame mem
  rw [List.getElem?_append_left (List.getElem?_eq_some_iff.1 missed).1]
  exact missed

/-- A step writes down what it does to the table. -/
theorem trace_moves (lawful : slot.Lawful) {history : List (Event κ ν)} {t : Thread slot ε} {s : σ}
    {move : Move slot ε} (moves : t.Moves history.length s move) (known : t.Known history)
    (trace : Trace history (slot.get s)) : Trace (history ++ move.event.toList) (slot.get move.state) := by
  cases moves with
  | silent code state same =>
      rw [Option.toList_none, List.append_nil, same]
      exact trace
  | hit key value code found => exact trace.next ⟨found, rfl⟩
  | missed key compute next missing => exact trace.next ⟨missing, rfl⟩
  | stored frame frames made code innermost =>
      have missed := known frame (innermost ▸ List.mem_cons_self)
      exact trace.next ⟨missed, Prod.ext rfl (lawful.get_set _ _)⟩
  | failed frame frames code innermost =>
      have missed := known frame (innermost ▸ List.mem_cons_self)
      exact trace.next ⟨missed, rfl⟩
  | cleared code state empties =>
      show Trace (history ++ [.cleared]) _
      rw [empties]
      exact trace.next rfl

/-- A caller goes into a lookup by missing. -/
theorem known_moves {history : List (Event κ ν)} {t : Thread slot ε} {s : σ} {move : Move slot ε}
    (moves : t.Moves history.length s move) (known : t.Known history) :
    move.thread.Known (history ++ move.event.toList) := by
  have still := known.append move.event.toList
  cases moves with
  | silent code state same => exact still
  | hit key value code found => exact still
  | missed key compute next missing =>
      intro frame mem
      rcases List.mem_cons.1 mem with rfl | outer
      · exact List.getElem?_concat_length
      · exact still frame outer
  | stored frame frames made code innermost =>
      exact fun other mem => still other (innermost ▸ List.mem_cons_of_mem _ mem)
  | failed frame frames code innermost =>
      exact fun other mem => still other (innermost ▸ List.mem_cons_of_mem _ mem)
  | cleared code state empties => exact still

/-- A computation starts with a miss, and is over when it has ended. -/
theorem inside_moves {history : List (Event κ ν)} {t : Thread slot ε} {s : σ} {move : Move slot ε}
    (moves : t.Moves history.length s move) (call : Nat) :
    move.thread.inside call + move.event.toList.countP (Event.ends call) + begun history call =
      t.inside call + begun (history ++ move.event.toList) call := by
  cases moves with
  | silent code state same => simp [inside]
  | hit key value code found => simp [inside, begun_concat, Event.ends, Event.isMiss]
  | missed key compute next missing =>
      simp only [inside, Option.toList_some, begun_concat, List.countP_cons, List.countP_nil]
      by_cases here : call = history.length
      · simp [here, Event.ends, Event.isMiss]
        omega
      · have elsewhere : ¬ history.length = call := fun same => here same.symm
        simp [here, elsewhere, Event.ends, Event.isMiss]
  | stored frame frames made code innermost =>
      simp [inside, innermost, begun_concat, List.countP_cons, Event.ends, Event.isMiss]
  | failed frame frames code innermost =>
      simp [inside, innermost, begun_concat, List.countP_cons, Event.ends, Event.isMiss]
  | cleared code state empties => simp [inside, begun_concat, Event.ends, Event.isMiss]

end Thread

/-! ### Runs -/

namespace System

/-- How many computations of a lookup are under way. -/
def running (sys : System slot ε) (call : Nat) : Nat :=
  (sys.threads.flatMap Thread.frames).countP fun frame => frame.call = call

/-- How many computations of a lookup have ended. -/
def ended (sys : System slot ε) (call : Nat) : Nat := sys.history.countP (Event.ends call)

/-- What holds at each step of a run: the history makes the table, and each computation under way or
    ended belongs to one lookup that missed. -/
structure Sound (sys : System slot ε) : Prop where
  trace : Trace sys.history (slot.get sys.state)
  known : ∀ t ∈ sys.threads, t.Known sys.history
  once : ∀ call, sys.running call + sys.ended call = begun sys.history call

/-- At the start nothing has been looked up, and the table is empty. -/
theorem sound_start {s : σ} (fresh : slot.get s = Memo.empty) (programs : List (Program slot ε)) :
    (start programs s).Sound where
  trace := by
    show Trace [] (slot.get s)
    rw [fresh]
    exact .start
  known := by
    intro t mem
    obtain ⟨program, _, rfl⟩ := List.mem_map.1 mem
    exact fun frame inside => absurd inside List.not_mem_nil
  once := by
    intro call
    have idle : (start programs s).running call = 0 := by
      induction programs with
      | nil => rfl
      | cons program rest ih => exact ih
    rw [idle]
    rfl

/-- One caller of a list and the others. -/
theorem exists_split {α : Type} {l : List α} {i : Nat} {a : α} (present : l[i]? = some a) :
    ∃ before after, l = before ++ a :: after ∧ ∀ b, l.set i b = before ++ b :: after := by
  induction l generalizing i with
  | nil => cases present
  | cons first rest ih =>
      cases i with
      | zero =>
          cases present
          exact ⟨[], rest, rfl, fun _ => rfl⟩
      | succ i =>
          obtain ⟨before, after, same, replaced⟩ := ih present
          exact ⟨first :: before, after, congrArg (first :: ·) same, fun b => congrArg (first :: ·) (replaced b)⟩

/-- Every step keeps what holds. -/
theorem sound_step (lawful : slot.Lawful) {sys : System slot ε} (sound : sys.Sound) (i : Nat) :
    (sys.step i).Sound := by
  cases present : sys.threads[i]? with
  | none =>
      rw [step, present]
      exact sound
  | some t =>
      obtain ⟨before, after, threads, replaced⟩ := exists_split present
      have moves := t.moves_move sys.history.length sys.state
      have known := sound.known t (List.mem_of_getElem? present)
      rw [step_of_getElem? present, replaced]
      constructor
      · exact t.trace_moves lawful moves known sound.trace
      · intro other mem
        rcases List.mem_append.1 mem with early | late
        · exact (sound.known other (threads ▸ List.mem_append_left _ early)).append _
        · rcases List.mem_cons.1 late with rfl | late
          · exact t.known_moves moves known
          · exact (sound.known other (threads ▸ List.mem_append_right _ (List.mem_cons_of_mem _ late))).append _
      · intro call
        have once := sound.once call
        have accounted := t.inside_moves moves call
        simp only [running, ended, threads, Thread.inside, List.flatMap_append, List.flatMap_cons,
          List.countP_append] at once accounted ⊢
        omega

/-- Each step keeps the system sound, so every run does, in whatever order the callers take turns. -/
theorem sound_run (lawful : slot.Lawful) {sys : System slot ε} (sound : sys.Sound) (schedule : List Nat) :
    (sys.run schedule).Sound := by
  induction schedule generalizing sys with
  | nil => exact sound
  | cons i rest ih => exact ih (sound_step lawful sound i)

/-- A step at which a lookup fails leaves the state as it is. -/
theorem state_step_of_failed {sys : System slot ε} {i call : Nat} {key : κ}
    (fails : (sys.step i).history = sys.history ++ [.failed call key]) : (sys.step i).state = sys.state := by
  cases present : sys.threads[i]? with
  | none =>
      rw [step, present]
  | some t =>
      rw [step_of_getElem? present] at fails ⊢
      have event := List.append_cancel_left fails
      have moves := t.moves_move sys.history.length sys.state
      generalize t.move sys.history.length sys.state = move at event moves
      cases moves with
      | failed => rfl
      | silent => cases event
      | hit | missed | stored | cleared => cases event

end System

/-! ### Agreement -/

/-- At a place of the history, a lookup of a key returned a value: it found it, or it was kept when the
    lookup stored what it had computed. -/
def Returned (history : List (Event κ ν)) (i : Nat) (key : κ) (value : ν) : Prop :=
  history[i]? = some (.hit key value) ∨ ∃ call made, history[i]? = some (.stored call key made value)

/-- A lookup returns the value that the table has for its key then. -/
theorem Trace.get?_of_returned {history : List (Event κ ν)} {m : Memo κ ν} (trace : Trace history m) {i : Nat}
    {key : κ} {value : ν} (returned : Returned history i key value) :
    ∃ after, Trace (history.take (i + 1)) after ∧ after.get? key = some value := by
  rcases returned with found | ⟨call, made, stored⟩
  · obtain ⟨before, after, _, ⟨has, rfl⟩, trace⟩ := trace.fits_of_getElem? found
    exact ⟨_, trace, has⟩
  · obtain ⟨before, after, _, ⟨_, stores⟩, trace⟩ := trace.fits_of_getElem? stored
    refine ⟨after, trace, ?_⟩
    rw [show after = (before.store key made).2 from congrArg Prod.snd stores, get?_store, if_pos rfl,
      ← show value = (before.store key made).1 from congrArg Prod.fst stores]

/-- Callers of a table take their steps in any order, with lookups that can fail and lookups that cannot.
    As long as none of them clears the table: a value once there stays; all lookups of a key return the
    value that was stored first for it; a lookup that fails changes nothing; the computation of a lookup
    runs once if the lookup missed, and never otherwise; each value was made by the computation of a
    lookup of its own key; and so many keys have a value as have had a store completed. -/
theorem interleaved_lookups_agree (lawful : slot.Lawful) (programs : List (Program slot ε)) (s : σ)
    (fresh : slot.get s = Memo.empty) :
    (∀ (key : κ) (compute : Program slot ε) (total : Routine σ ν) (next : Except ε ν → Program slot ε),
      compute.routine = total.bind (fun value => .done (.ok value)) →
        (Program.call key compute next).routine =
          (lookup slot key total).bind fun value => (next (.ok value)).routine) ∧
    (System.start programs s).RunsAs (programs.map Program.routine) ∧
    ∀ schedule, (∀ e ∈ ((System.start programs s).run schedule).history, e.isClear = false) →
      let sys := (System.start programs s).run schedule
      let table := slot.get sys.state
      (∀ earlier later key value, schedule = earlier ++ later →
        (slot.get ((System.start programs s).run earlier).state).get? key = some value →
          table.get? key = some value) ∧
      (∀ i key value, Returned sys.history i key value →
        firstStored key (sys.history.take (i + 1)) = some value ∧ firstStored key sys.history = some value) ∧
      (∀ i call key, (sys.step i).history = sys.history ++ [.failed call key] →
        (sys.step i).state = sys.state) ∧
      (∀ call, sys.running call + sys.ended call = begun sys.history call) ∧
      (∀ key value, table.get? key = some value → ∃ i call : Nat,
        sys.history[i]? = some (.stored call key value value) ∧ call < i ∧
          sys.history[call]? = some (.missed key)) ∧
      table.size = (storedKeys sys.history).toFinset.card := by
  refine ⟨?_, ?_, ?_⟩
  · intro key compute total next cannotFail
    exact Program.routine_call_of_total cannotFail next
  · exact System.runsAs_start programs s
  · intro schedule noClear sys table
    have sound : sys.Sound := System.sound_run lawful (System.sound_start fresh programs) schedule
    have whole : sinceClear sys.history = sys.history := sinceClear_eq_self noClear
    refine ⟨?_, ?_, ?_, sound.once, ?_, ?_⟩
    · intro earlier later key value split had
      have soundThen := System.sound_run lawful (System.sound_start fresh programs) earlier
      obtain ⟨more, longer⟩ := ((System.start programs s).run earlier).exists_history_run later
      rw [← System.run_append, ← split] at longer
      have wholeThen : sinceClear ((System.start programs s).run earlier).history = _ :=
        sinceClear_eq_self fun e mem => noClear e (longer ▸ List.mem_append_left more mem)
      rw [soundThen.trace.get?_eq, wholeThen] at had
      rw [sound.trace.get?_eq, whole, longer, firstStored_append, had, Option.some_or]
    · intro i key value returned
      obtain ⟨after, trace, found⟩ := sound.trace.get?_of_returned returned
      have wholeThen : sinceClear (sys.history.take (i + 1)) = _ :=
        sinceClear_eq_self fun e mem => noClear e (List.mem_of_mem_take mem)
      rw [trace.get?_eq, wholeThen] at found
      refine ⟨found, ?_⟩
      rw [← List.take_append_drop (i + 1) sys.history, firstStored_append, found, Option.some_or]
    · intro i call key fails
      exact System.state_step_of_failed fails
    · intro key value found
      obtain ⟨i, call, stored, missed, before, _⟩ := sound.trace.exists_stored found
      exact ⟨i, call, stored, before, missed⟩
    · rw [← whole]
      exact sound.trace.size_eq

/-- Two callers that look one key up and make different values, the first one slowly, and one whose
    computation for another key fails. -/
def racing : List (Program (⟨id, fun m _ => m⟩ : Slot (Memo Nat Nat) (Memo Nat Nat)) Unit) :=
  [.call 0 (.pause (.done (.ok 1))) .done, .call 0 (.done (.ok 2)) .done, .call 1 (.done (.error ())) .done]

/-- Both miss, the second stores first, and the first gets the value of the second. -/
theorem interleaved_lookups_agree_racing :
    let sys := (System.start racing Memo.empty).run [0, 1, 1, 0, 0, 2, 2]
    (∀ e ∈ sys.history, e.isClear = false) ∧ sys.history[3]? = some (.stored 0 0 1 2) ∧
      firstStored 0 sys.history = some 2 ∧ sys.state.size = (storedKeys sys.history).toFinset.card := by
  intro sys
  have noClear : ∀ e ∈ sys.history, e.isClear = false := by decide
  obtain ⟨_, _, agree⟩ :=
    interleaved_lookups_agree ⟨fun _ _ => rfl, fun _ => rfl, fun _ _ _ => rfl⟩ racing Memo.empty rfl
  obtain ⟨_, returns, _, _, _, size⟩ := agree [0, 1, 1, 0, 0, 2, 2] noClear
  exact ⟨noClear, rfl, (returns 3 0 2 (Or.inr ⟨0, 1, rfl⟩)).2, size⟩

end Memo

end SassRenderLint
