import ComparativeLaw.Feed.RuleRecord
import ComparativeLaw.Jurisdiction.Known

namespace ComparativeLaw.Feed

/-- The entry of a record in a registry, at a position in the feed. -/
def RuleRecord.entry (registry : Registry) (position : Nat) (r : RuleRecord) :
    Except FeedTrouble RuleEntry :=
  match registry.get? (.text r.code) with
  | none => .error (.undeclared position (canonicalCode r.code))
  | some jurisdiction =>
    match r.payload.rule with
    | .error c => .error (.rule position c)
    | .ok rule => .ok {
        jurisdiction, topic := r.topic, rule, statute := r.statute, precedents := r.precedents,
        adopted := r.adopted, notes := .text r.notes }

/-- The entries of records from a position on. -/
def entriesFrom (registry : Registry) (position : Nat) :
    List RuleRecord → Except FeedTrouble (List RuleEntry)
  | [] => .ok []
  | r :: rs => do return (← r.entry registry position) :: (← entriesFrom registry (position + 1) rs)

/-- The entries of a feed, and the registry with the jurisdictions that it declares. -/
def RuleFeed.resolve (feed : RuleFeed) (registry : Option Registry) :
    Except FeedTrouble (List RuleEntry × Registry) := do
  let registry := (Registry.orKnown registry).merged feed.jurisdictions
  return (← entriesFrom registry 0 feed.rules, registry)

def parseRules (payload : Json) (registry : Option Registry) (source : Option Json) :
    Except Failure (List RuleEntry × Registry) :=
  match RuleFeed.read payload with
  | .error problems => .error (.feed source (.ruleFeed problems))
  | .ok feed => (feed.resolve registry).mapError (.feed source)

end ComparativeLaw.Feed
