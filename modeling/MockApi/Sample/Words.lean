/-! # Words and names to draw from -/

namespace MockApi.Sample

/-- Words without meaning. -/
def words : List String :=
  ["alias", "consequatur", "aut", "perferendis", "sit", "voluptatem", "accusantium", "doloremque",
    "aperiam", "eaque", "ipsa", "quae", "ab", "illo", "inventore", "veritatis", "et", "quasi",
    "architecto", "beatae", "vitae", "dicta", "sunt", "explicabo", "aspernatur", "odit", "fugit",
    "sed", "quia", "consequuntur", "magni", "dolores", "eos", "qui", "ratione", "sequi",
    "nesciunt", "neque", "dolorem", "ipsum", "dolor", "amet", "consectetur", "adipisci", "velit",
    "non", "numquam", "eius", "modi", "tempora", "incidunt", "ut", "labore", "magnam", "aliquam",
    "quaerat", "enim", "ad", "minima", "veniam", "quis", "nostrum", "laboriosam", "nisi"]

/-- Ends of host names. -/
def hostEndings : List String := ["com", "net", "org", "biz", "info", "name"]

/-- Ends of addresses that belong to nobody. -/
def safeHosts : List String := ["example.com", "example.net", "example.org"]

/-- Given names. -/
def givenNames : List String :=
  ["Ada", "Alan", "Amelia", "Boris", "Carla", "Cyril", "Dora", "Edgar", "Elena", "Felix", "Greta",
    "Hugo", "Ines", "Jonas", "Karen", "Leo", "Maria", "Nils", "Olga", "Pablo", "Quinn", "Rosa",
    "Simon", "Tara", "Ulf", "Vera", "Willa", "Yara", "Zoe"]

/-- Family names. -/
def familyNames : List String :=
  ["Abbott", "Bauer", "Carter", "Dietrich", "Evans", "Fisher", "Grant", "Hayes", "Ibsen", "Jones",
    "Keller", "Lang", "Moore", "Nolan", "Olsen", "Parker", "Quincy", "Reed", "Stone", "Turner",
    "Upton", "Vance", "Wolf", "Young", "Ziegler"]

/-- Cities. -/
def cities : List String :=
  ["Ashford", "Brookfield", "Clearwater", "Danbury", "Eastport", "Fairview", "Georgetown",
    "Harrow", "Kingston", "Lakewood", "Milton", "Newbury", "Oakdale", "Portland", "Riverside",
    "Salem", "Westfield"]

/-- Countries. -/
def countries : List String :=
  ["Argentina", "Austria", "Brazil", "Canada", "Denmark", "Egypt", "Finland", "France", "Germany",
    "Ghana", "Iceland", "India", "Italy", "Japan", "Kenya", "Mexico", "Norway", "Peru", "Spain",
    "Sweden", "Uruguay"]

/-- States. -/
def states : List String :=
  ["Alabama", "Alaska", "Arizona", "Colorado", "Florida", "Georgia", "Hawaii", "Idaho", "Iowa",
    "Kansas", "Maine", "Montana", "Nevada", "Ohio", "Oregon", "Texas", "Utah", "Vermont"]

/-- Ends of street names. -/
def streetEndings : List String :=
  ["Alley", "Avenue", "Court", "Drive", "Lane", "Park", "Road", "Square", "Street", "Way"]

/-- Forms of postal codes, where a number sign stands for a digit. -/
def zipForms : List String := ["#####", "#####-####"]

/-- Forms of telephone numbers, where a number sign stands for a digit. -/
def phoneForms : List String :=
  ["###-###-####", "(###) ###-####", "1-###-###-####", "###.###.####"]

end MockApi.Sample
