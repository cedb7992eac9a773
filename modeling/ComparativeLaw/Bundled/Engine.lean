import ComparativeLaw.Bundled.Decisions
import ComparativeLaw.Bundled.Rules
import ComparativeLaw.Engine.Basic

namespace ComparativeLaw.Bundled

def engine {α : Type} [Scalar α] (policy : Policy α) : Except Fault (Engine α) :=
  Engine.ofData policy registry rules decisions

end ComparativeLaw.Bundled
