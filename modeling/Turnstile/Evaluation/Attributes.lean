import Turnstile.Calendar
import Turnstile.Request

/-! What conditions can see of a request. -/
namespace Turnstile.Attributes

def ofTime (t : ClockTime) : Dict Json :=
  .ofList [("request_time", .int t.seconds), ("request_year", .int t.date.year),
    ("request_month", .int t.date.month), ("request_day", .int t.date.day),
    ("request_hour", .int t.hour), ("request_weekday", .string (Date.weekday t.localDays))]

def names (s : Subject) (kind : String) : List String :=
  (s.principals.filter (·.kind = kind)).map (·.name)

/-- The first user, all groups and the first entity. -/
def ofSubject (s : Subject) : Dict Json :=
  .ofList ((names s "user").head?.toList.map (("request_user", .string ·)) ++
    [("request_groups", .strings (names s "group"))] ++
    (names s "entity").head?.toList.map (("request_entity", .string ·)))

/-- What the caller sends along wins over everything else. -/
def ofRequest (t : ClockTime) (subject : Option Subject) (r : Request) : Dict Json :=
  let base := (ofTime t).union (subject.elim .empty ofSubject)
  ((base.insert "request_resource" (.string r.resource)).insert "request_action"
    (.string r.action)).union r.attributes

end Turnstile.Attributes
