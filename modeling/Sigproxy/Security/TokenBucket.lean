import Mathlib.Algebra.Order.Ring.Rat
import Sigproxy.Library.Bucket

namespace Sigproxy.Security
open Library.Bucket

-- Tokens and instants, in seconds, as exact numbers.
structure TokenBucket where
  tokens : ℚ
  updatedAt : ℚ
  deriving DecidableEq, Repr

namespace TokenBucket

def new (_ratePerSecond burst now : ℚ) : TokenBucket := ⟨burst,now⟩

def allow (bucket : TokenBucket) (now ratePerSecond burst : ℚ) : Bool × TokenBucket :=
  let elapsed := max (now - bucket.updatedAt) 0
  let tokens := min (bucket.tokens + elapsed * ratePerSecond) burst
  if 1 ≤ tokens then (true,⟨tokens - 1,now⟩) else (false,⟨tokens,now⟩)

-- The arrivals of one key, its bucket made when the first one comes.
def arrivals (ratePerSecond burst : ℚ) : Option TokenBucket → List ℚ → List (ℚ × Bool)
  | _,[] => []
  | bucket,now :: rest =>
    let decided := (bucket.getD (new ratePerSecond burst now)).allow now ratePerSecond burst
    (now,decided.1) :: arrivals ratePerSecond burst (some decided.2) rest

variable {ratePerSecond burst : ℚ}

theorem allow_grants (bucket : TokenBucket) (later : bucket.updatedAt ≤ now) : bucket.allow now ratePerSecond burst =
    ((grant ratePerSecond burst bucket.tokens (now - bucket.updatedAt)).1,
      ⟨(grant ratePerSecond burst bucket.tokens (now - bucket.updatedAt)).2,now⟩) := by
  unfold allow
  simp only [max_eq_left (sub_nonneg.mpr later)]
  by_cases enough : 1 ≤ min (bucket.tokens + (now - bucket.updatedAt) * ratePerSecond) burst
  · rw [if_pos enough,grant_passed enough]
  · rw [if_neg enough,grant_refused enough]

theorem arrivals_held (bucket : TokenBucket) (ordered : (bucket.updatedAt :: times).Pairwise (· ≤ ·)) :
    arrivals ratePerSecond burst (some bucket) times = greedy ratePerSecond burst bucket.tokens bucket.updatedAt times := by
  induction times generalizing bucket with
  | nil => rfl
  | cons now rest ih =>
      obtain ⟨first,later⟩ := List.pairwise_cons.mp ordered
      simp only [arrivals,Option.getD_some,allow_grants bucket (first now (by simp)),greedy]
      exact congrArg _ (ih ⟨_,now⟩ later)

theorem stays_ordered {first : ℚ} (ordered : (first :: rest).Pairwise (· ≤ ·)) : (first :: first :: rest).Pairwise (· ≤ ·) := by
  refine List.pairwise_cons.mpr ⟨?_,ordered⟩
  intro now either
  rcases either with _ | ⟨_,member⟩
  · exact le_refl first
  · exact (List.pairwise_cons.mp ordered).1 now member

theorem arrivals_fresh (first : ℚ) (ordered : (first :: rest).Pairwise (· ≤ ·)) : arrivals ratePerSecond burst none (first :: rest) =
    greedy ratePerSecond burst burst first (first :: rest) := by
  refine Eq.trans ?_ (arrivals_held (new ratePerSecond burst first) (stays_ordered ordered))
  simp only [arrivals,Option.getD_none,Option.getD_some]

theorem fresh_conforms (rated : 0 ≤ ratePerSecond) (sized : 0 ≤ burst) (ordered : (first :: rest).Pairwise (· ≤ ·)) :
    Conforms ratePerSecond burst burst first (arrivals ratePerSecond burst none (first :: rest)) := by
  rw [arrivals_fresh first ordered]
  exact greedy_conforms rated sized sized (stays_ordered ordered)

end TokenBucket

end Sigproxy.Security
