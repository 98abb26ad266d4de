import Turnstile.Unicode.Runs

/-! The script of a character. -/
namespace Turnstile.Unicode.Script

/-- The names of each script, in lower case and without separators. -/
def names : Array (List String) :=
  #[["adlam", "adlm"], ["ahom"], ["anatolianhieroglyphs", "hluw"],
    ["arab", "arabic"], ["armenian", "armn"], ["avestan", "avst"],
    ["bali", "balinese"], ["bamu", "bamum"], ["bass", "bassavah"],
    ["batak", "batk"], ["beng", "bengali"], ["bhaiksuki", "bhks"],
    ["bopo", "bopomofo"], ["brah", "brahmi"], ["brai", "braille"],
    ["bugi", "buginese"], ["buhd", "buhid"], ["canadianaboriginal", "cans"],
    ["cari", "carian"], ["aghb", "caucasianalbanian"], ["cakm", "chakma"],
    ["cham"], ["cher", "cherokee"], ["chorasmian", "chrs"],
    ["common", "zyyy"], ["copt", "coptic", "qaac"], ["cuneiform", "xsux"],
    ["cprt", "cypriot"], ["cpmn", "cyprominoan"], ["cyrillic", "cyrl"],
    ["deseret", "dsrt"], ["deva", "devanagari"], ["diak", "divesakuru"],
    ["dogr", "dogra"], ["dupl", "duployan"], ["egyp", "egyptianhieroglyphs"],
    ["elba", "elbasan"], ["elym", "elymaic"], ["ethi", "ethiopic"],
    ["geor", "georgian"], ["glag", "glagolitic"], ["goth", "gothic"],
    ["gran", "grantha"], ["greek", "grek"], ["gujarati", "gujr"],
    ["gong", "gunjalagondi"], ["gurmukhi", "guru"], ["han", "hani"],
    ["hang", "hangul"], ["hanifirohingya", "rohg"], ["hano", "hanunoo"],
    ["hatr", "hatran"], ["hebr", "hebrew"], ["hira", "hiragana"],
    ["armi", "imperialaramaic"], ["inherited", "qaai", "zinh"], ["inscriptionalpahlavi", "phli"],
    ["inscriptionalparthian", "prti"], ["java", "javanese"], ["kaithi", "kthi"],
    ["kannada", "knda"], ["kana", "katakana"], ["kawi"],
    ["kali", "kayahli"], ["khar", "kharoshthi"], ["khitansmallscript", "kits"],
    ["khmer", "khmr"], ["khoj", "khojki"], ["khudawadi", "sind"],
    ["lao", "laoo"], ["latin", "latn"], ["lepc", "lepcha"],
    ["limb", "limbu"], ["lina", "lineara"], ["linb", "linearb"],
    ["lisu"], ["lyci", "lycian"], ["lydi", "lydian"],
    ["mahajani", "mahj"], ["maka", "makasar"], ["malayalam", "mlym"],
    ["mand", "mandaic"], ["mani", "manichaean"], ["marc", "marchen"],
    ["gonm", "masaramgondi"], ["medefaidrin", "medf"], ["meeteimayek", "mtei"],
    ["mend", "mendekikakui"], ["merc", "meroiticcursive"], ["mero", "meroitichieroglyphs"],
    ["miao", "plrd"], ["modi"], ["mong", "mongolian"],
    ["mro", "mroo"], ["mult", "multani"], ["myanmar", "mymr"],
    ["nabataean", "nbat"], ["nagm", "nagmundari"], ["nand", "nandinagari"],
    ["newtailue", "talu"], ["newa"], ["nko", "nkoo"],
    ["nshu", "nushu"], ["hmnp", "nyiakengpuachuehmong"], ["ogam", "ogham"],
    ["olchiki", "olck"], ["hung", "oldhungarian"], ["ital", "olditalic"],
    ["narb", "oldnortharabian"], ["oldpermic", "perm"], ["oldpersian", "xpeo"],
    ["oldsogdian", "sogo"], ["oldsoutharabian", "sarb"], ["oldturkic", "orkh"],
    ["olduyghur", "ougr"], ["oriya", "orya"], ["osage", "osge"],
    ["osma", "osmanya"], ["hmng", "pahawhhmong"], ["palm", "palmyrene"],
    ["pauc", "paucinhau"], ["phag", "phagspa"], ["phnx", "phoenician"],
    ["phlp", "psalterpahlavi"], ["rejang", "rjng"], ["runic", "runr"],
    ["samaritan", "samr"], ["saur", "saurashtra"], ["sharada", "shrd"],
    ["shavian", "shaw"], ["sidd", "siddham"], ["sgnw", "signwriting"],
    ["sinh", "sinhala"], ["sogd", "sogdian"], ["sora", "sorasompeng"],
    ["soyo", "soyombo"], ["sund", "sundanese"], ["sylo", "sylotinagri"],
    ["syrc", "syriac"], ["tagalog", "tglg"], ["tagb", "tagbanwa"],
    ["taile", "tale"], ["lana", "taitham"], ["taiviet", "tavt"],
    ["takr", "takri"], ["tamil", "taml"], ["tangsa", "tnsa"],
    ["tang", "tangut"], ["telu", "telugu"], ["thaa", "thaana"],
    ["thai"], ["tibetan", "tibt"], ["tfng", "tifinagh"],
    ["tirh", "tirhuta"], ["toto"], ["ugar", "ugaritic"],
    ["unknown", "zzzz"], ["vai", "vaii"], ["vith", "vithkuqi"],
    ["wancho", "wcho"], ["wara", "warangciti"], ["yezi", "yezidi"],
    ["yi", "yiii"], ["zanabazarsquare", "zanb"]]

private def table : List String :=
  ["1tAYqCS6AYqCS1bAYCSfAYCS5AYnCSAYvCSAYchCS13AY5CS5AY2AMkAY34CD4BRAY3BR2GA4BRAYBR4GABRAYBRAY3B",
   "RGABRGAkBRGA1rBReAZgBR3pBD2CD4pBDGA12AE2GA1eAE2GA3AEGA1jCA8GArCA4GA6CAbGA5ADAY6ADAYeADAY3ADA",
   "YwADAYaADbCDqADCD30ADAYyADeFIGA1oFI2GA3FI1cAD1eFTeGA1nDX2GA3DX1aEW2GAfEWGAsDD2GADDGAbFI5GAvA",
   "DGA2AD6GA22ADAYtAD29BF4CDfBF2AYqBF4AKGA8AK2GA2AK2GAmAKGA7AKGAAK3GA4AK2GA9AK2GA2AK2GA4AK8GAAK",
   "4GA2AKGA5AK2GApAK2GA3BUGA6BU4GA2BU2GAmBUGA7BUGA2BUGA2BUGA2BU2GABUGA5BU4GA2BU2GA3BU3GABU7GA4B",
   "UGABU7GAhBUaGA3BSGA9BSGA3BSGAmBSGA7BSGA2BSGA5BS2GAaBSGA3BSGA3BS2GABSfGA4BS2GAcBS7GA7BSGA3ELG",
   "A8EL2GA2EL2GAmELGA7ELGA2ELGA5EL2GA9EL2GA2EL2GA3EL7GA3EL4GA2ELGA5EL2GAiELaGA2FPGA6FP3GA3FPGA4",
   "FP3GA2FPGAFPGA2FP3GA2FP3GA3FP3GAcFP4GA5FP3GA3FPGA4FP2GAFP6GAFPeGAlFP5GAdFSGA3FSGAnFSGAgFS2GA",
   "9FSGA3FSGA4FS7GA2FSGA3FS2GAFS2GA4FS2GAaFS7GA9FSdCIGA3CIGAnCIGAaCIGA5CI2GA9CIGA3CIGA4CI7GA2CI",
   "6GA2CIGA4CI2GAaCIGA3CIcGAdDCGA3DCGA1fDCGA3DCGA6DC4GAgDC2GAqDCGA3FCGAiFC3GAoFCGA9FCGAFC2GA7FC",
   "3GAFC4GA6FCGAFCGA8FC6GAaFC2GA3FCcGA1mFU4GAAYsFU11GA2CRGACRGA5CRGAoCRGACRGAnCR2GA5CRGACRGA7CR",
   "GAaCR2GA4CRwGA20FVGA10FV4GA13FVGA10FVGAfFVGA7FV4AY2FV11GA4gDR12BNGABN5GABN2GA17BNAY4BN74BW21",
   "BMGA4BM2GA7BMGABMGA4BM2GA15BMGA4BM2GAxBMGA4BM2GA7BMGABMGA4BM2GAfBMGA1lBMGA4BM2GA1vBM2GAwBM3G",
   "AqBM6GA2eAW2GA6AW2GAhsARtEA3GA23EV3AYbEV7GAmFJ9GAFJlBY2AY9GAkAQcGAdFKGA3FKGA2FKcGA2mCO2GAaCO",
   "6GAaCO6GA2DO2AYDOAYkDO6GA2hDO7GA17DO5GA1yARaGAvCUGAcCU4GAcCU4GACU3GAcCUuFL2GA5FLbGA18DV4GAqD",
   "V6GAbDV3GA2DVwCOsAP2GA2AP1rFMGAtFM2GAbFM6GAaFM6GAeFM2GAvCD1dGA25AG3GA1bAGGA1sFG1gAJ8GA4AJ1kC",
   "T3GAfCT3GA3CT1cEB9BD7GA17BN2GA3BN8FG8GA3CDAYdCDAY7CD4AYCD6AYCD3AY2CDAY5GA12CS5BRBD1dCS5BR4CS",
   "5BRdCSBD1yCSBR1sCD74CSmBR2GA6BR2GA12BR2GA6BR2GA8BRGABRGABRGABRGAvBR2GA1hBRGAfBRGAeBR2GA6BRGA",
   "jBR2GA3BRGA9BRGAcAY2CD2fAYGAbAYCS2GAbAYCSfAYGAdCS3GAxAYfGAxCDfGA12AYBR3AY2CS6AYCSrAYCShAY15C",
   "S3AY4GAifAYpGAbAYlGApsAY74AOhgAY2GAwAYGA2xAY2oBOwCS38AZ5GA7AZ12BNGABN5GABN2GA1kFW7GA2FWeGAFW",
   "nBM9GA7BMGA7BMGA7BMGA7BMGA7BMGA7BMGA7BMGA7BMGAwBD2mAYyGAqBVGA2hBVcGA5yBVqGAcAY4GA5AYBVAYBVpA",
   "Y9BV4CD2BW8AY4BV4AYGA2eCB2GA2CD2AY3CBAY2iCJ2AY3CJ5GA17AMGA2mBWGAgAYwAM10AYcGAgCJvBWGA1sAYvBW",
   "29AY1bCJAY2gCJ4oAY534BV1sAYg74BVwdGG3GA1jGG9GA1cCX8cGBkGA2oBD2gAH8GAyAY2uCS3AY1sCS5GA2CSGACS",
   "GA5CSoGAeCS19FH3GAaAY6GA1kER8GA1yEX8GAcEX6GAwBF1aCLAYCL10EUbGAEUtBW3GA26CGGAAYaCG4GA2CGvDRGA",
   "1jAV9GAeAV2GAaAV2GA4AVwDR1vFNoGA5FNnDIaGA6BM2GA6BM2GA6BM9GA7BMGA7BMGA17CSAY9CSBR4CS2AY4GA28A",
   "W1aDI2GAaDI6GA8mcBWcGAnBW4GA1dBW6isGAa6BV2GA2yBV12GA7CScGA5AE5GAqCAGA5CAGACAGA2CAGA2CAGAaCA3",
   "7ADgGAa3AD2AY28AD2GA1iAD7GAADwGAgADgCDaAY6GAeCD2BDzAYGAjAYGA4AY4GA5ADGA3rAD2GAAYGAwAYqCS6AYq",
   "CSbAYaCJAY19CJ2AYvBW3GA6BW2GA6BW2GA6BW2GA3BW3GA7AYGA7AYaGA5AY2GAcCWGAqCWGAjCWGA2CWGAfCW2GAeC",
   "WyGA3fCW5GA3AY4GA19AY3GA9AY27BRGAdAY3GABR1bGA19AYCD3mGAtCY3GA1dASfGACDrAY4GA10ED9GA3EDrBP5GA",
   "17EF5GAuFZGAFZ10EG4GAeEG16GA28BE1cEZuEN2GAaEN6GA10EM4GA10EM4GA14BK8GA1gATbGAATbGCGAfGCGA7GCG",
   "A2GCGAbGCGAfGCGA7GCGA2GC1vGA8nCV9GAmCVaGA8CVoGA6CSGA16CSGA9CS1xGA6BB2GABBGA18BBGA2BB3GABB2GA",
   "BBmCCGA9CCwEPvDS8GA9DS1cGAjBZGA2BZ5GA5BZsES3GAESqCZ5GACZ1sGAwDLoDK4GAkDK2GA1aDK4CMGA2CM5GA8C",
   "MGA3CMGAtCM2GA3CM4GAaCM7GA9CM7GAwEIwEEwGA13DE4GAcDE9GA1iAF3GA7AFmCF2GA8CFjCE5GA8CEiET7GA4ETc",
   "GA7ET28GA21EJ1jGA1fECdGA1fEC7GA6EC14BX8GAaBX86GAvADGA16GFGA3GF2GA2GF23GA3AD14EH8GA16FDmGAqEK",
   "12GAsAXkGAnBL9GA26AN4GA10AN9GAAN1vCHaGACH2GApFE7GAaFE6GA1hAUGAiAU8GA13DA9GA2oEYGAkFCbGAiCPGA",
   "1bCP1qGA7DQGADQGA4DQGAfDQGAbDQ6GA1nCQ5GAaCQ6GA4BQGA8BQ2GA2BQ2GAmBQGA7BQGA2BQGA5BQGACD9BQ2GA2",
   "BQ2GA3BQ2GABQ6GABQ5GA7BQ2GA7BQ3GA5BQ3vGA2kDWGA5DWuGA20FX8GAaFX4mGA1iFA2GA12FAyGA1xDNbGAaDN6G",
   "AdDOjGA1mFO6GAaFO1iGArAB2GAfAB4GAnAB55GA1oBH2sGA2bGEcGAGE7BG2GABG2GA8BGGA2BGGAuBGGA2BG2GAcBG",
   "9GAaBG1yGA8DU2GA1aDU2GAbDUrGA20GH8GA2bFFdGAgAR1lEQ7GAaBF6uGA9ALGA19ALGAeALaGAtAL3GAwDF2GAmDF",
   "GAeDF21GA7DGGA2DGGA18DG3GADGGA2DGGA9DG8GAaDG6GA6BTGA2BTGA11BTGA2BTGA6BT7GAaBT8mGApDB7GAhCKGA",
   "15CK3GAsCK2eGACXfGA1eFPdGAFPpmBA2uGA33BAGA5BAbGA5gBA218GA2rBCdGAuuBJ33eGAg7AC6ntGAftAH7GAvDP",
   "GAaDP4GA2DP27FQGAaFQ6GAuAI2GA6AIaGA1yEOaGAaEOGA7EOGAlEO5GAjEOj4GA2jDH2tGA23DM4GA1lDM7GAhDM1s",
   "GAFRDY2BVCNbGA2BVeGA4qgFR8GAlcFRd2CN16GA9FR6w7GA4CJGA7CJGA2CJGACJ7zCB3CJfGACBtGA3CB2GACJeGA4",
   "CJ8GAb0DY1s4GA2zBI5GAdBI3GA9BI7GAaBI2GA4BI4AY3mkGA1aCD2GAnCD9GA38AY1oGA6uAYaGA13AY2GA1qAY3CD",
   "hAY8CD2AY7CDuAY4CD1pAYlGA1yBR3eGAkAYcGAkAYcGA2fAY9GApAY3rGA2dAYGA1zAYGA2AY2GAAY2GA2AY2GA4AYG",
   "AcAYGAAYGA7AYGA1tAYGA4AY2GA8AYGA7AYGAsAYGA4AYGA5AYGAAY3GA7AYGA9gAY2GA84AY2GA1eAYi4FBfGA5FBGA",
   "fFBuoGAvCS6GA6CS5xGA7BOGAhBO2GA7BOGA2BOGA5BO5GA1qBDxGABD34GA19DZ3GAeDZ2GAaDZ4GA2DZ8wGAvFYhGA",
   "1mGD5GAGDcwGA16DTkmGA7BMGA4BMGA2BMGAfBMGA5hDJ2GAgDJ15GA24AA4GAaAA4GA2AAltGA1wAY24GA1pAY5eGA4",
   "ADGArADGA2ADGAAD2GAADGAaADGA4ADGAADGAAD6GAAD4GAADGAADGAADGA3ADGA2ADGAAD2GAADGAADGAADGAADGAAD",
   "GA2ADGAAD2GA4ADGA7ADGA4ADGA4ADGAADGAaADGAhAD5GA3ADGA5ADGAhAD1gGA2AD7iGA18AY4GA2sAYcGAfAY2GAf",
   "AYGAfAYGA11AYaGA4uAY1kGAqAYCB2AYdGA18AY4GA9AY7GA2AYeGA6AY4aGArcAY4GAhAY3GAdAY3GA3bAY4GA2nAY6",
   "GAcAY4GAAYfGAcAY4GA1kAY8GAaAY6GA14AY8GAuAY2GA2AY26GA9gAYcGAeAY2GAdAY3GA9AY7GA1aAYGA7AY8GAeAY",
   "4GA9AY7GA9AY7GA43AYGA1jAY11GAaAYsmGAwyoBVwGA37eBV6GA66BV2GA4g2BVeGA5rlBV2e7GAf2BV15uGA3t7BV5",
   "GA38gBVf975GAAYuGA2oAY3kGA6oCD47bkGA"]

private def index (s : String) : Nat :=
  s.toList.foldl (fun n c => 26 * n + (c.toNat - 65)) 0

private def runs : Array (Nat × Nat) := (readRuns 2 table).map fun r => (r.1, index r.2)

/-- The position of a character's script in `names`. -/
def ofChar (c : Char) : Option Nat := lookup runs c.toNat

def byName? (name : String) : Option Nat := names.findIdx? (·.contains name)

/-- The sets of scripts that share characters, as positions in `names`. The empty one stands for the script of the
character alone. -/
private def shared : Array (List Nat) :=
  #[[], [43], [70], [29, 109], [29, 40], [29, 70], [3, 49, 101, 138, 149, 161],
    [3, 138, 149], [0, 3, 49, 101, 138, 149, 161],
    [0, 3, 49, 81, 82, 114, 123, 133, 138], [3, 138], [3, 149, 161], [3, 49],
    [10, 31, 42, 44, 46, 60, 70, 80, 115, 128, 145, 148, 153],
    [10, 31, 42, 44, 46, 60, 70, 80, 115, 145, 148, 153],
    [10, 31, 33, 42, 44, 45, 46, 60, 68, 78, 80, 84, 98, 115, 132, 137, 144, 145, 148, 153],
    [10, 31, 33, 42, 44, 45, 46, 60, 68, 72, 78, 80, 84, 98, 115, 132, 137, 144, 145, 148, 153],
    [31, 33, 59, 78], [10, 20, 137], [46, 94], [44, 67], [42, 145], [60, 98],
    [20, 95, 141], [39, 70], [16, 50, 139, 140], [92, 121], [10, 31, 42, 60], [31],
    [31, 42], [10, 31], [31, 128], [31, 60, 80, 115, 145, 148], [31, 98],
    [10, 31, 42, 60, 98, 115, 148, 153], [31, 42, 60], [10], [98], [29, 138], [138],
    [70, 92], [31, 42, 70], [12, 47, 48, 53, 61, 162], [12, 47, 48, 53, 61], [47],
    [12, 47], [53, 61], [47, 53, 61], [47, 70],
    [31, 33, 44, 46, 59, 60, 67, 68, 78, 80, 91, 98, 144, 153],
    [31, 33, 44, 46, 59, 60, 67, 68, 78, 91, 98, 144, 153],
    [31, 33, 44, 46, 59, 67, 68, 78, 91, 144, 153], [31, 145], [63, 70, 95], [15, 58],
    [3, 101], [3, 149], [27, 28, 74], [27, 74], [27, 73, 74], [3, 25], [82, 114], [34]]

private def sharedTable : List String :=
  ["n6AAAB2AAABtAAdAC7nAAADAE2AFAEasAAAGeAAAGAH2AAAIwAAAJaAAbAKaAAaAL6AAAK2rAAAMhoAAANAOhAAAPAQa",
   "AR3aAAaAS3aAAaAT3aAAaAU6uAAeAV6qAAaAWnkAAaAX4xAAAY189AA2AZ5nAA2BAAABAy2AABBBCBBBDBC2BEBFBEBF",
   "BGBC2BF2BCBFBE7BCBHBE2BCBE4BCBIBDBJ2BEBK2BDBL5hAA2AB1iAABMAABNfoAABO5cAABP2mqAAAEcdAA2BQBR2A",
   "ABSAAaBQAABR8BQ4BRaAA4BT2AABR5BUAABR4AA2BV2BS2hAA4BU3AABU2iAABQBU43AAgBSwAA10BS1oAA14BS1kAA1",
   "dBSfAAcBS1fAABS2gAApBSaAA5BS2oAAvBSmlsAAAE40AA8BW88AA3BX3BY4BZ53AABEAACA1mAACB4gAACCghaAA2CD",
   "4yAACEaAACE1zAA2BR7uAA5BQaAABU19AA2BU9sAA2CFCG4AA19CH3AA9CGbkAAsCI1kmAACJ1laAAAVAAAV1jAA2AV2",
   "hfAA2AVAAAVuz0AA4CK4hoAAiBS63iAA2BSl57yAA"]

private def sharedRuns : Array (Nat × Nat) := (readRuns 2 sharedTable).map fun r => (r.1, index r.2)

/-- Whether a script uses the character, be it its own or shared with others. -/
def uses (i : Nat) (c : Char) : Bool :=
  match (lookup sharedRuns c.toNat).bind (shared[·]?) with
  | some (j :: others) => i = j || others.contains i
  | _ => ofChar c = some i

end Turnstile.Unicode.Script
