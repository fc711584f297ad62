import QueryWorkload.Query
import QueryWorkload.Sampler

set_option autoImplicit false

namespace QueryWorkload

structure FillState (σ : Type) where
  query : Query
  sampler : Sampler σ

/-- Steps that may write the query, one after the other until the first failure. What is written
stays written, also when a later step fails. -/
def Filling (σ α : Type) := FillState σ → Except Failure α × FillState σ

namespace Filling

variable {σ α : Type}

instance : Monad (Filling σ) where
  pure a := fun d => (.ok a, d)
  bind m f := fun d =>
    match m d with
    | (.ok a, d) => f a d
    | (.error e, d) => (.error e, d)

def sample (m : Sampling σ α) : Filling σ α := fun d =>
  let (r, sampler) := m d.sampler
  (r, { d with sampler })

def ofExcept (r : Except Failure α) : Filling σ α :=
  fun d => (r, d)

def put (body : Body) : Filling σ Unit := fun d =>
  (.ok (), { d with query := d.query.fill body })

end Filling

end QueryWorkload
