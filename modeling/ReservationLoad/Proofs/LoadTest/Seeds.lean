import Mathlib.Logic.Function.Basic
import ReservationLoad.Proofs.LoadTest.ExactlyOnce

/-!
# Every request has a seed of its own

With a seed, the reservation of a request is drawn from a stream that starts at
`Generator.requestSeed`.  For a fixed seed this is a bijection from the requests
onto the words, since multiplying by an odd factor and masking with a word can
both be undone; for a fixed request it is a bijection in the seed.  As a load
test composes every request at most once, no two of its streams start alike.
-/

namespace ReservationLoad

open Chance Work

namespace Generator

/-- The factor that undoes `spread`. -/
def gather : UInt64 := 0xF1DE83E19937733D

theorem spread_mul_gather : spread * gather = 1 := by decide

theorem spread_bijective : Function.Bijective fun id : UInt64 => id * spread := by
  refine Function.bijective_iff_has_inverse.mpr ⟨fun word => word * gather, ?_, ?_⟩
  · intro id
    simp only [UInt64.mul_assoc, spread_mul_gather, UInt64.mul_one]
  · intro word
    simp only [UInt64.mul_assoc, UInt64.mul_comm gather spread, spread_mul_gather, UInt64.mul_one]

theorem mask_involutive (mask : UInt64) : Function.Involutive fun word => mask ^^^ word := by
  intro word
  simp only [← UInt64.xor_assoc, UInt64.xor_self, UInt64.zero_xor]

/-- Every word is the seed of exactly one request, -/
theorem requestSeed_bijective (seed : UInt64) : Function.Bijective (requestSeed seed) :=
  (mask_involutive seed).bijective.comp spread_bijective

/-- and a request has it from exactly one seed. -/
theorem requestSeed_bijective_left (id : UInt64) :
    Function.Bijective fun seed => requestSeed seed id := by
  have masked : (fun seed => requestSeed seed id) = fun seed => id * spread ^^^ seed := by
    funext seed
    exact UInt64.xor_comm seed (id * spread)
  rw [masked]
  exact (mask_involutive (id * spread)).bijective

/-- With a seed, a request is composed from the stream of its own seed. -/
theorem drawFor_of_seeded {σ : Type} [WordSource σ] {g : Generator} {seed : UInt64}
    (seeded : g.seed = some seed) (id : UInt64) (stream : σ) :
    g.drawFor id stream =
      (g.tables.draw (Cipher.ofSeed (requestSeed seed id))).map fun drawn =>
        (drawn.1, stream) := by
  simp only [drawFor, seeded]
  cases g.tables.draw (Cipher.ofSeed (requestSeed seed id)) <;> rfl

end Generator

/-- The seeds of the streams from which a pool with a seed has composed
reservations, the latest first. -/
def History.seeds (seed : UInt64) (history : History) : List UInt64 :=
  (History.passed .composed history).map (Generator.requestSeed seed)

namespace LoadTest

variable {σ : Type} [WordSource σ] {config : Config} {streams : Nat → σ} {history : History}
  {p : Pool σ}

theorem requests_nodup (total : UInt64) : (requestsIn (Queue.requests total)).Nodup :=
  (Queue.requestsIn_requests_pairwise total).imp UInt64.ne_of_lt

/-- At no time has a request passed a milestone twice. -/
theorem passed_nodup (run : Pool.Run (settings config) (initial config streams) history p)
    (milestone : Milestone) : (History.passed milestone history).Nodup := by
  have account := run.milestones milestone
  rw [initial, Pool.owing_start, Pool.shared_start, zero_add, Queue.requestsIn_seeded] at account
  -- What has passed the milestone is part of what waited at the start.
  have part : (History.passed milestone history : Multiset UInt64) ≤
      requestsIn (Queue.requests config.load.totalRequests) := by
    rw [← account]
    exact Multiset.le_add_left _ _
  have distinct := Multiset.coe_nodup.mpr (requests_nodup config.load.totalRequests)
  exact Multiset.coe_nodup.mp (Multiset.nodup_of_le part distinct)

theorem seeds_nodup (seed : UInt64)
    (run : Pool.Run (settings config) (initial config streams) history p) :
    (history.seeds seed).Nodup :=
  (passed_nodup run .composed).map (Generator.requestSeed_bijective seed).injective

/-- The seed of a request's stream determines the request, and the seed of the
run; both run through all words.  So the requests of a queue have seeds that
differ from each other, and no load test composes two reservations from streams
that start alike, under any schedule and at any time. -/
theorem no_shared_request_seed :
    (∀ seed : UInt64, Function.Bijective (Generator.requestSeed seed)) ∧
      (∀ id : UInt64, Function.Bijective fun seed => Generator.requestSeed seed id) ∧
      (∀ {σ : Type} [WordSource σ] (tables : Tables) (seed id : UInt64) (stream : σ),
        Generator.drawFor ⟨tables, some seed⟩ id stream =
          (tables.draw (Cipher.ofSeed (seed ^^^ (id * 0x9E3779B97F4A7C15)))).map fun drawn =>
            (drawn.1, stream)) ∧
      (∀ (seed total : UInt64) (workers : Nat),
        ((requestsIn (Queue.seeded total workers).items).map
          (Generator.requestSeed seed)).Nodup) ∧
      ∀ {σ : Type} [WordSource σ] (config : Config) (seed : UInt64) (streams : Nat → σ)
        {history : History} {p : Pool σ},
        Pool.Run (settings config) (initial config streams) history p →
          (history.seeds seed).Nodup := by
  refine ⟨Generator.requestSeed_bijective, Generator.requestSeed_bijective_left, ?drawn, ?queued,
    fun _ seed _ _ _ run => seeds_nodup seed run⟩
  case drawn =>
    intro σ _ tables seed id stream
    exact Generator.drawFor_of_seeded rfl id stream
  case queued =>
    intro seed total workers
    rw [Queue.requestsIn_seeded]
    exact (requests_nodup total).map (Generator.requestSeed_bijective seed).injective

/-- Two workers, three requests and the greatest of all seeds. -/
theorem no_shared_request_seed_two_workers :
    let config : Config :=
      { load := { workers := 2, totalRequests := 3 }, scenario := ⟨some 18446744073709551615⟩ }
    let streams : Nat → Script := fun _ => .ofList []
    let last := LoadTest.run config (.mock 200 0) streams
    ∃ history, Pool.Run (settings config) (initial config streams) history last ∧
      last.hasEnded = true ∧ (history.seeds 18446744073709551615).Nodup := by
  intro config streams last
  have reached := Pool.run_reaches (settings config) (.mock 200 0) (initial config streams)
  rcases Pool.Run.of_reaches reached with ⟨history, run⟩
  have ended : last.hasEnded = true :=
    (Pool.supplied_seeded streams _ _ .empty []).run_hasEnded (settings config) _
  obtain ⟨-, -, -, -, apart⟩ := no_shared_request_seed
  exact ⟨history, run, ended, apart config _ streams run⟩

end LoadTest

end ReservationLoad
