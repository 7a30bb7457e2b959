import MutationTesting.Proofs.Mutation.Description
import MutationTesting.Run.Project
import MutationTesting.Source.Parse

/-!
# What a single file can stop

The mutations of all files are found before any is tested.  So a run ends without a result as soon as
one of its files holds something that cannot be described.
-/

namespace MutationTesting.Run

open MutationTesting.Files
open MutationTesting.Settings (RunConfig UseError)
open MutationTesting.Tree (IsWellFormed)

/-- Two programs: `a+b`, and a call of a formatted string with a soft hyphen in it. -/
def hyphenProject : Surroundings where
  files := ⟨⟨[(["a.py"], .file [97, 43, 98, 10]),
    (["b.py"], .file [102, 34, 123, 39, 194, 173, 39, 125, 34, 46, 106, 111, 105, 110, 40, 55, 41,
      10])]⟩, "/"⟩
  searchPath := []
  environment := []
  runner := fun _ _ => .ok 0

end MutationTesting.Run
