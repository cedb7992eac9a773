import ComparativeLaw.Jurisdiction.Registry

namespace ComparativeLaw

namespace Jurisdiction

/-- The states by the two letters of their postal code. -/
def states : List (String × String) :=
  [("AL", "Alabama"), ("AK", "Alaska"), ("AZ", "Arizona"), ("AR", "Arkansas"), ("CA", "California"),
    ("CO", "Colorado"), ("CT", "Connecticut"), ("DE", "Delaware"), ("DC", "District of Columbia"),
    ("FL", "Florida"), ("GA", "Georgia"), ("HI", "Hawaii"), ("ID", "Idaho"), ("IL", "Illinois"),
    ("IN", "Indiana"), ("IA", "Iowa"), ("KS", "Kansas"), ("KY", "Kentucky"), ("LA", "Louisiana"),
    ("ME", "Maine"), ("MD", "Maryland"), ("MA", "Massachusetts"), ("MI", "Michigan"),
    ("MN", "Minnesota"), ("MS", "Mississippi"), ("MO", "Missouri"), ("MT", "Montana"),
    ("NE", "Nebraska"), ("NV", "Nevada"), ("NH", "New Hampshire"), ("NJ", "New Jersey"),
    ("NM", "New Mexico"), ("NY", "New York"), ("NC", "North Carolina"), ("ND", "North Dakota"),
    ("OH", "Ohio"), ("OK", "Oklahoma"), ("OR", "Oregon"), ("PA", "Pennsylvania"),
    ("RI", "Rhode Island"), ("SC", "South Carolina"), ("SD", "South Dakota"), ("TN", "Tennessee"),
    ("TX", "Texas"), ("UT", "Utah"), ("VT", "Vermont"), ("VA", "Virginia"), ("WA", "Washington"),
    ("WV", "West Virginia"), ("WI", "Wisconsin"), ("WY", "Wyoming")]

/-- The letters of the states that keep a civil code. -/
def civilLawStates : List String := ["LA"]

def ofState (letters name : String) : Jurisdiction :=
  { code := ("US-" ++ letters : String), name := name,
    tradition := if civilLawStates.contains letters then .civilLaw else .commonLaw }

/-- The letters of a state code without the country. -/
def stateLetters (code : String) : String :=
  match (canonicalCode code).toList with
  | 'U' :: 'S' :: '-' :: letters => String.ofList letters
  | letters => String.ofList letters

/-- The state that a code names, with or without the country. -/
def usState (code : String) : Except Failure Jurisdiction :=
  let letters := stateLetters code
  match Table.get? states letters with
  | some name => .ok (ofState letters name)
  | none => .error (.unknownJurisdiction (.text code) none)

def national : List Jurisdiction :=
  [{ code := "US", name := "United States (Federal)" },
    { code := "UK", name := "United Kingdom" },
    { code := "JP", name := "Japan", tradition := .civilLaw },
    { code := "DE", name := "Germany", tradition := .civilLaw },
    { code := "FR", name := "France", tradition := .civilLaw },
    { code := "EU", name := "European Union", tradition := .mixed }]

end Jurisdiction

/-- The registry of the known jurisdictions, the states first. -/
def Registry.known : Registry :=
  .ofList (Jurisdiction.states.map (fun s => .ofState s.1 s.2) ++ Jurisdiction.national)

/-- The registry, or the known jurisdictions in place of one that is missing or empty. -/
def Registry.orKnown (r : Option Registry) : Registry :=
  match r with
  | some r => if r.isEmpty then known else r
  | none => known

end ComparativeLaw
