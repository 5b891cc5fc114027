/-
  TlsHandshake.Negotiation.Round

  What one round of suite selection remembers: for which authentication types there was
  nothing usable, and how many aliases were asked for. A type is asked for again only
  while it has not missed.
-/

import TlsHandshake.Registry.KeyExchange

namespace TlsHandshake

/-- A set of recorded misses. -/
structure MissCache (α : Type) [DecidableEq α] where
  entries : List α
  nodup : entries.Nodup

namespace MissCache

variable {α : Type} [DecidableEq α]

/-- No misses yet. -/
def empty : MissCache α := ⟨[], List.nodup_nil⟩

/-- Whether a miss is recorded. -/
def contains (cache : MissCache α) (x : α) : Bool := cache.entries.contains x

/-- The cache with one miss recorded, which may have been there before. -/
def record (cache : MissCache α) (x : α) : MissCache α :=
  if h : x ∈ cache.entries then cache
  else ⟨x :: cache.entries, List.nodup_cons.2 ⟨h, cache.nodup⟩⟩

/-- The number of different misses. -/
def size (cache : MissCache α) : Nat := cache.entries.length

/-- Whether nothing is recorded. -/
def isEmpty (cache : MissCache α) : Bool := cache.entries.isEmpty

instance : Membership α (MissCache α) := ⟨fun cache x => x ∈ cache.entries⟩

theorem mem_def (cache : MissCache α) (x : α) : x ∈ cache ↔ x ∈ cache.entries := Iff.rfl

@[simp] theorem not_mem_empty (x : α) : x ∉ (empty : MissCache α) := List.not_mem_nil

@[simp] theorem contains_iff (cache : MissCache α) (x : α) :
    cache.contains x = true ↔ x ∈ cache := by
  simp [contains, mem_def]

@[simp] theorem mem_record (cache : MissCache α) (x y : α) :
    y ∈ cache.record x ↔ y = x ∨ y ∈ cache := by
  unfold record
  split
  · rename_i h
    exact ⟨Or.inr, fun hy => hy.elim (fun e => e ▸ h) id⟩
  · exact List.mem_cons

end MissCache

/-- The memory of one round of suite selection. Misses are kept by type; to keep the names
    of the types would come to the same, because different types have different names
    (`AuthType.name_injective`). -/
structure Round where
  misses : MissCache AuthType
  queries : Nat

namespace Round

/-- A round that has not asked for anything. -/
def fresh : Round := ⟨.empty, 0⟩

/-- The round after a miss for a type. -/
def miss (round : Round) (auth : AuthType) : Round :=
  { round with misses := round.misses.record auth }

/-- The round after the key store was asked for an alias. -/
def query (round : Round) : Round := { round with queries := round.queries + 1 }

@[simp] theorem misses_query (round : Round) : round.query.misses = round.misses := rfl

@[simp] theorem queries_query (round : Round) : round.query.queries = round.queries + 1 := rfl

@[simp] theorem mem_misses_miss (round : Round) (auth other : AuthType) :
    other ∈ (round.miss auth).misses ↔ other = auth ∨ other ∈ round.misses :=
  MissCache.mem_record ..

@[simp] theorem queries_miss (round : Round) (auth : AuthType) :
    (round.miss auth).queries = round.queries := rfl

/-- A type has missed exactly if a type of its name has. -/
theorem mem_misses_iff_name (round : Round) (auth : AuthType) :
    auth ∈ round.misses ↔ auth.name ∈ round.misses.entries.map AuthType.name := by
  rw [MissCache.mem_def]
  constructor
  · exact List.mem_map_of_mem
  · intro hm
    obtain ⟨missed, hmissed, hname⟩ := List.mem_map.1 hm
    rwa [← AuthType.name_injective hname]

end Round

end TlsHandshake
