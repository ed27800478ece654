/-
# Wait graphs

A wait graph relates each thread to the threads it waits for. It is circular when
some thread waits for itself over one or more others. A rank that falls along
every wait excludes that.

Nothing here depends on what the threads are and what they wait for.
-/

import Mathlib.Data.Nat.Basic
import Mathlib.Logic.Relation

namespace WaitGraph

variable {θ : Type*} {waits : θ → θ → Prop}

end WaitGraph
