import QueryWorkload.Names
import QueryWorkload.TimeRange

set_option autoImplicit false

namespace QueryWorkload

structure Sampler (σ : Type) where
  range : TimeRange
  population : Population
  source : σ

/-- Requests to a sampler, one after the other until the first failure. -/
def Sampling (σ α : Type) := Sampler σ → Except Failure α × Sampler σ

namespace Sampling

variable {σ α β : Type}

instance : Monad (Sampling σ) where
  pure a := fun s => (.ok a, s)
  bind m f := fun s =>
    match m s with
    | (.ok a, s) => f a s
    | (.error e, s) => (.error e, s)

def population : Sampling σ Population :=
  fun s => (.ok s.population, s)

variable [WordSource σ]

def window (d : Duration) : Sampling σ TimeRange := fun s =>
  let (r, source) := s.range.drawWindow d s.source
  (r, { s with source })

def names (kind : EntityKind) (count : Nat) : Sampling σ (List String) := fun s =>
  match s.population.total kind with
  | .error why => (.error why, s)
  | .ok total =>
    let (r, source) := Names.draw kind count total s.source
    (r, { s with source })

end Sampling

end QueryWorkload
