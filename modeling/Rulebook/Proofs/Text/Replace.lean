import Mathlib.Data.List.Infix
import Rulebook.Rule.Describe

namespace Rulebook

namespace Text

variable {old new tail text : List Char} {mark c : Char}

end Text

section Home

variable {home text other : List Char}

end Home

end Rulebook
