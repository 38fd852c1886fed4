import ShardedSql.Error

/-!
# Key generators

A generator hands out keys one after another.  It is a value: taking a key gives the key and the
generator that hands out the next one.  Beside plain sequences there are keys made of a time in
milliseconds, the number of a worker and a counter within the millisecond.
-/

namespace ShardedSql

/-- A source of keys. -/
inductive KeyGenerator where
  /-- Consecutive integers. -/
  | sequence (next : Int64)
  /-- Keys by time; `last` is the time of the last key and `counter` its counter. -/
  | timed (worker last : Int) (counter : Nat)
  deriving DecidableEq

namespace KeyGenerator

/-- The start of 1 November 2016 in milliseconds since 1970. -/
def epoch : Int := 1477958400000

/-- The number of workers. -/
def workerLimit : Int := 1024

/-- The number of keys of one worker in one millisecond. -/
def counterLimit : Nat := 4096

/-- A generator by time for a worker. -/
def ofWorker (worker : Int) : Except Error KeyGenerator :=
  if 0 ≤ worker ∧ worker < workerLimit then
    .ok (.timed worker 0 0)
  else
    .error (.workerNumber workerLimit worker)

/-- The generator of the first worker. -/
def standard : KeyGenerator :=
  .timed 0 0 0

/-- The key for a time, a worker and a counter. -/
def assemble
    (time worker : Int)
    (counter : Nat) : Int64 :=
  Int64.ofInt ((time - epoch) * (workerLimit * counterLimit) + worker * counterLimit + counter)

/-- Take a key at the time `now`.  When the keys of a millisecond are used up, the generator waits
for the next one; a clock that runs backwards gives no key. -/
def next
    (generator : KeyGenerator)
    (now : Int) : Except Error (Int64 × KeyGenerator) :=
  match generator with
  | .sequence key => .ok (key, .sequence (key + 1))
  | .timed worker last counter =>
      if now < last then
        .error (.clockBackwards last now)
      else
        let following := if now = last then (counter + 1) % counterLimit else 0
        let time := if now = last ∧ following = 0 then last + 1 else now
        .ok (assemble time worker following, .timed worker time following)

/-- The time of the last key, if the generator keeps one. -/
def lastTime? : KeyGenerator → Option Int
  | .sequence _ => none
  | .timed _ last _ => some last

/-- The time after a key is taken at the time `now`: the generator may have waited. -/
def timeAfter
    (generator : KeyGenerator)
    (now : Int) : Int :=
  max now (generator.lastTime?.getD now)

/-- Take a number of keys, the first one at the time `now`. -/
def take
    (generator : KeyGenerator)
    (now : Int) : Nat → Except Error (List Int64)
  | 0 => .ok []
  | count + 1 => do
      let (key, following) ← generator.next now
      return key :: (← take following (following.timeAfter now) count)

end KeyGenerator

end ShardedSql
