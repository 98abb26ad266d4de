import Turnstile.Unicode.Runs

/-! The general category of a character. -/
namespace Turnstile.Unicode

inductive Category where
  | uppercaseLetter | lowercaseLetter | titlecaseLetter | modifierLetter
  | otherLetter | nonspacingMark | spacingMark | enclosingMark
  | decimalNumber | letterNumber | otherNumber | connectorPunctuation
  | dashPunctuation | openPunctuation | closePunctuation | initialPunctuation
  | finalPunctuation | otherPunctuation | mathSymbol | currencySymbol
  | modifierSymbol | otherSymbol | spaceSeparator | lineSeparator
  | paragraphSeparator | control | format | surrogate
  | privateUse | unassigned
deriving DecidableEq, Repr

namespace Category

/-- The two-letter name. -/
def name : Category → String
  | uppercaseLetter => "Lu"
  | lowercaseLetter => "Ll"
  | titlecaseLetter => "Lt"
  | modifierLetter => "Lm"
  | otherLetter => "Lo"
  | nonspacingMark => "Mn"
  | spacingMark => "Mc"
  | enclosingMark => "Me"
  | decimalNumber => "Nd"
  | letterNumber => "Nl"
  | otherNumber => "No"
  | connectorPunctuation => "Pc"
  | dashPunctuation => "Pd"
  | openPunctuation => "Ps"
  | closePunctuation => "Pe"
  | initialPunctuation => "Pi"
  | finalPunctuation => "Pf"
  | otherPunctuation => "Po"
  | mathSymbol => "Sm"
  | currencySymbol => "Sc"
  | modifierSymbol => "Sk"
  | otherSymbol => "So"
  | spaceSeparator => "Zs"
  | lineSeparator => "Zl"
  | paragraphSeparator => "Zp"
  | control => "Cc"
  | format => "Cf"
  | surrogate => "Cs"
  | privateUse => "Co"
  | unassigned => "Cn"

def all : List Category :=
  [uppercaseLetter, lowercaseLetter, titlecaseLetter, modifierLetter,
   otherLetter, nonspacingMark, spacingMark, enclosingMark,
   decimalNumber, letterNumber, otherNumber, connectorPunctuation,
   dashPunctuation, openPunctuation, closePunctuation, initialPunctuation,
   finalPunctuation, otherPunctuation, mathSymbol, currencySymbol,
   modifierSymbol, otherSymbol, spaceSeparator, lineSeparator,
   paragraphSeparator, control, format, surrogate,
   privateUse, unassigned]

/-- The symbols of the table, in the order of `all`. -/
private def symbols : List Char := "ABCDEFGHIJKLMNOPQRSTUVWXYZ!#$%".toList

private def ofSymbol (s : String) : Category :=
  ((symbols.zip all).find? (fun p => String.singleton p.1 = s)).elim unassigned (·.2)

private def table : List String :=
  ["wZW3RT3RNORSRM2RaI2R3S2RqANROULUqBNSOSxZWR4TVRUVEPS!VUVS2KUB2RUKEQ3KRnAS7AoBS8BABABABABABABA",
   "BABABABABABABABABABABABABABABABABABABABABA2BABABABABABABABA2BABABABABABABABABABABABABABABABA",
   "BABABABABABABAB2ABABA3B2ABAB2AB3A2B4AB2AB3A3B2AB2ABABAB2ABA2BAB2AB3ABAB2A2BEA3B4EACBACBACBAB",
   "ABABABABABABA2BABABABABABABABABA2BACBAB3ABABABABABABABABABABABABABABABABABABABABABABABABABAB",
   "ABABABA7B2AB2A2BAB4ABABABABA1xBErBiD4UcDeU5D7UDUDhU34FABABDUAB2%D3BRA4%2UAR3A%A%2ABhA%9AzBA2",
   "B3A3BABABABABABABABABABABABA5BABSAB2A2B1fA1cBABABABABABABABABABABABABABABABABABV5F2HABABABAB",
   "ABABABABABABABABABABABABABABABABABABABABABABAB2ABABABABABABA2BABABABABABABABABABABABABABABAB",
   "ABABABABABABABABABABABABABABABABABABABABABABABABABABABABABABABABAB%12A2%D6R15BRM2%2VT%19FMFR",
   "2FR2FRF8%rE4%4E2Rb%6!3S2RT2R2VbFR!3RwEDaElFaI4R2EF2rERE7F!V6F2D2FV4F2EaI3E2VEeR%!EFuErF2%2hE",
   "bFEe%aIxE9F2DV3RD2%F2TmE4FD9FD3FD5F2%fR%pE3F2%R%bE5%oEU6E%2!6%8F15EDoF!wFG1iEFGFE3G8F4GF2GE7",
   "FaE2F2RaIRDfEF2G%8E2%2E2%mE%7E%E3%4E2%FE3G4F2%2G2%2GFE8%G4%2E%3E2F2%aI2E2T6KVTERF2%2FG%6E4%2",
   "E2%mE%7E%2E%2E%2E2%F%3G2F4%2F2%3F3%F7%4E%E7%aI2F3EFRa%2FG%9E%3E%mE%7E%2E%5E2%FE3G5F%2FG%2GF2",
   "%Ef%2E2F2%aIRT7%E6F%F2G%8E2%2E2%mE%7E%2E%5E2%FEGFG4F2%2G2%2GF7%2FG4%2E%3E2F2%aIVE6Ka%FE%6E3%",
   "3E%4E3%2E%E%2E3%2E3%3E3%cE4%2GF2G3%3G%3GF2%E6%Ge%aI3K6VTV5%F3GF8E%3E%nE%gE2%FE3F4G%3F%4F7%2F",
   "%3E2%E2%2E2F2%aI7%R7KVEF2GR8E%3E%nE%aE%5E2%FEGF5G%F2G%2G2F7%2G6%2E%2E2F2%aI%2EGc%2F2G9E%3E%1",
   "5E2FE3G4F%3G%3GFEV4%3EG7K3E2F2%aI9KV6E%F2G%iE3%oE%9E%E2%7E3%F4%3G3F%F%8G6%aI2%2GRc%1cEF2E7F4",
   "%T6ED8FRaI2R11%2E%E%5E%oE%E%aEF2E9FE2%5E%D%7F%aI2%4Ew%E3VfRVR3V2F6VaIaKVFVFVFNONO2G8E%10E4%e",
   "FG5FR2F5EbF%10F%8VF6V%2V5R4V2R11%17E2G4FG6FG2F2G2FEaI6R6E2G2F4E3FE3G2E7G3E4FdEF2G2F6GFEGaI3G",
   "F2V12A%A5%A2%17BRD3B95E%4E2%7E%E%4E2%15E%4E2%xE%4E2%7E%E%4E2%fE%1lE%4E2%1vE2%3F9RkK3%gEaV6%2",
   "eA2%6B2%Mh8EVRhEWqENO3%23E3R3J8E7%iE3FG9%jE2FG2R9%iE2Fc%dE%3E%2Fc%1gE2FG7F8GF2GbF3RD3RTEF2%a",
   "I6%aK6%6RM4R3F!FaI6%zED1hE7%5E2FyEFE5%1yEa%vE%3F4G2F3G4%2GF6G3F4%V3%2RaIuE2%5Eb%18E4%qE6%aIK",
   "3%yVnE2F2GF2%2R1hEGFG7F%FGF2G8F6GaF2%FaI6%aI6%7RD6R2%eFHgF1d%4FG1bEFG5FGF5GF2G8E3%aI7RaV9F9V",
   "2R%2FGuEG4F2G2FG3F2EaI18EFG2F3GFG3F2G8%4R10E8G8F2G2F3%5RaI3%3EaIuE6D2R9B7%17A2%3A8R8%3FRdFG7",
   "F4EF6EF2EG2FE5%18B1rDdBDyB11D1sFABABABABABABABABABABABABABABABABABABABABABABABABABABABABABAB",
   "ABABABABABABABABABABABABABABABABABABABABABABABABABABABABABABABABABABABABABABABABABABABABA9BA",
   "BABABABABABABABABABABABABABABABABABABABABABABABABABABABABABABABABABABABABABABABABABABABABABA",
   "BABA9B8A6B2%6A2%8B8A8B8A6B2%6A2%8B%A%A%A%A8B8AeB2%8B8C8B8C8B8C5B%2B4ACUB3U3B%2B4AC3U4B2%2B4A",
   "%3U8B5A3U2%3B%2B4AC2U%bW5!6M2RPQN2PQNP8RXY5!W9RPQ4R2L3RSNObRSRLaRW5!%a!KD2%6K3SNODaK3SNO%dD3",
   "%xTf%dF4HF3HcFf%2VA4VA2VB3A2B3ABVA2VS5A6VAVAVAV4AVB4AB4EB2V2B2A5SA4BVS2VBVgKzJAB4JK2V4%5S5V2",
   "S4VS2VS2VS7VSvV2S2VSVSvV7gS8VNONOkV2S7VNO29VSuVpS14V6S1xVp%bVl%1oK26VmK53VS9VS1iV8S33VS6wVNO",
   "NONONONONONOuK18V5SNOvSNONONONONOgS74V3nSNONONONONONONONONONONO1rSNONOwSNO76S1cVlS2V6S13V2%w",
   "V%2xV1cA1cBAB3A2BABABAB4ABA2BA6B2D3ABABABABABABABABABABABABABABABABABABABABABABABABABABABABA",
   "BABABABABABABABABABABABABABABABABABABABABA2B6VABAB3FAB5%4RK2R12B%B5%B2%1kE7%DRe%FnE9%7E%7E%7",
   "E%7E%7E%7E%7E%7E%wF2RPQPQ3RPQRPQ9RM2RMRPQ2RPQNONONONO5RDaR2M4RMRNdR2V3RNONONONOMy%qV%2hVc%5y",
   "Vq%cV4%W3RVDEJNONONONONO2VNONONONOMN2OV9J4F2GM5D2V3JDER2V%2eE2%2F2U2DEM2iER3DE5%17E%2mE%2V4K",
   "aVwE10Vc%gEvV%aKuV8KVfKwVaK13VfK8wV534E1sVg7pEDvrE3%1jV9%14E6D2R7gED3RgEaI2Ek%ABABABABABABAB",
   "ABABABABABABABABABABABABABABABABEF3HRaFRDABABABABABABABABABABABABABAB2D2F1yEaJ2F6R8%nU9D2UAB",
   "ABABABABABA3BABABABABABABABABABABABABABABABABABABABABABABABABABABABABABABABD8BABAB2ABABABABA",
   "BD2UABABEABA3BABABABABABABABABABAB5AB5ABABABABABABABAB4ABAB5%AB%B%BABABo%3DABE2DB7EF3EF4EFnE",
   "2G2FG4VF3%6K2VTV6%1gE4R8%2G1eEgG2F8%2RaI6%iF6E3RER2EFaIsE8F2RnEbF2Gb%RtE3%3FG1bEF2G4F2G2F3Gd",
   "R%DaI4%2R5EFD9EaI5E%15E6F2G2F2G2F9%3EF8EFG2%aI2%4RgED6E3VEGFG1eEFE3F2E2F5E2FEFEo%2ED2RbEG2F2",
   "G2RE2DGFa%6E2%6E2%6E9%7E%7E%17BU4D9BD2U4%28BzE2GF2GF2GRGF2%aI6%8mcEc%nE4%1dE4%1kw#4xs$a6E2%2",
   "yE12%7Bc%5B5%EFaESdE%5E%E%2E%2E%30EhUg%a3EONgV1sE2%1iE7%Vw%cET3VgF7RNOR6%gFR2M2LNONONONONONO",
   "NONO2RNO4R3L3R%4RMNONONO3RSM3S%RT2R4%5E%3rE2%!%3RT3RNORSRM2RaI2R3S2RqANROULUqBNSOSNORNO2RaED",
   "19E2DvE3%6E2%6E2%6E2%3E3%2TSUV2T%V4S2Va%3!2V2%cE%qE%jE%2E%fE2%eEy%3fE5%3R4%19K3%9V1hJ4KhV2K3",
   "V%dV3%V1b%19VF3m%tE3%1dEf%FrK4%wE4K9%kEJ8EJ5%12E5F5%uE%R10E4%8ER5J16%14A14B26E2%aI6%10A4%10B",
   "4%14E8%1gEb%RbA%fA%7A%2A%bB%fB%7B%2B1v%8nE9%mEa%8Eo%6D%16D%9D1x%6E2%E%18E%2E3%E2%nE%R8KnE2V7",
   "KvE8%9K1c%jE%2E5%5KmE6K3%RqE5%R1s%1kE4%2K2EgK2%1aKE3F%2F5%4F4E%3E%tE2%3F4%F9K7%9R7%tE2KRtE3K",
   "w%8EVsE2F4%5K7R9%1iE3%7RmE2%8KjE5%8KiE7%4Rc%7K28%21E1j%1fAd%1fB7%6K10E4F8%aI86%vK%16E%2FM2%2",
   "E23%3FtEaKE8%mEbF4K5Rm%iE4F4R12%lE7Kk%nE9%GFG1hEfF7R4%kKaIF2E2FE9%3FG19E3G4F2G2F2R!4RFa%!2%p",
   "E7%aI6%3F10E5FG8F%aI4RE2GE8%zEF2RE9%2FG1cE3G9F2G4E4R4FRGFaIERE3R%kKb%iE%pE3G3F2GFG2F6RF2EF1q",
   "%7E%E%4E%fE%aER6%1bEF3G8F5%aI6%2F2G%8E2%2E2%mE%7E%2E%5E%2FE2GF4G2%2G2%3G2%E6%G5%5E2G2%7F3%5F",
   "3v%1hE3G8F2G3FGF4E5RaI2R%RF3Eu%1cE3G6FGF4G2FG2F2ERE8%aI4m%1bE3G4F2%4G2FG2FnR4E2Fy%1cE3G8F2GF",
   "G2F3REb%aI6%dRj%17EFGF2G6FGFER6%aI1i%rE2%3F2G4FG5F4%aI2K3RV7E55%18E3G9FG2FR2s%wAwBaI9Kc%8E2%",
   "E2%8E%2E%oE6G%2G2%2FGFEGEGF3R9%aI1y%8E2%13E3G4F2%2F4GFEREGr%EaF14E6FGE4F8RF8%E6F2G3F1aEdFG2F",
   "3RE5Rd%21E7%aR6u%9E%11EG7F%6FGFE5Ra%aIjK3%2RuE2%mF%G7FG2FG2F21%7E%2E%12E6F3%F%2F%7FEF8%aI6%6",
   "E%2E%wE5G%2F%2GFGFE7%aI8m%jE2F2G2R7%2FEGdE%yE2G5F3%2GFGFdRaI2e%Ef%lK8V4ThVd%RpmE2u%33J%5Rb%5",
   "gE218%2pE2Rd%tsEg!F6EfF33e%g7E6nt%ftE7%vE%aI4%2R27E%aI6%uE2%5FRa%1cE7F5R4V4DRVa%aI%7K%lE5%jE",
   "j4%wAwBnK4R2t%23E4%FE1jG7%4FdD1s%2DRDFb%2Ge%4qgE8%yeE16%9E6w7%4D%7D%2D%83Ef%Et%3E2%Ee%4E8%b0",
   "E1s4%2zE5%dE3%9E7%aE2%V2FR4!3mk%1aF2%nF9%38V1o%6uVa%13V2%1oV2G3F3V6G8!8F2V7FuV4F1pVl%1uV3FV3",
   "e%kKc%kKc%2fV9%pK3r%qAqBqA7B%iBqAqBA%2A2%A2%2A2%4A%8A4B%B%7B%bBqAqB2A%4A2%8A%7A%qB2A%4A%5A%A",
   "3%7A%qBqAqBqAqBqAqBqAqBqAqBqAsB2%pASpBS6BpASpBS6BpASpBS6BpASpBS6BpASpBS6BAB2%1eIe8V1jF4V1eF8",
   "VFeVF2V5Rf%5F%fFuo%aBEkB6%6B5x%7F%hF2%7F%2F%5F5%1qDx%F34%19E3%7F7D2%aI4%EV8w%uEFh%18E4FaI5%T",
   "cw%rED4FaIkm%7E%4E%2E%fE%5hE2%9K7F15%yAyB7FD4%aI4%2Rlt%1nKV3KT4K24%19KVfK5e%4E%rE%2E%E2%E%aE",
   "%4E%E%E6%E4%E%E%E%3E%2E%E2%E%E%E%E%E%2E%E2%4E%7E%4E%4E%E%aE%hE5%3E%5E%hE1g%2S7i%18V4%2sVc%fV",
   "2%fV%fV%11Va%dK4hV1k%tVd%18V4%9V7%2Ve%6V4a%6zV5Uk8V4%hV3%dV3%3bV4%2nV6%cV4%Vf%cV4%1kV8%aV6%1",
   "4V8%uV2%2V26%9gVc%eV2%dV3%9V7%1aV%7V8%eV4%9V7%9V7%43V%1jV11%aIsm%wyoEw%37eE6%66E2%4g2Ee%5rlE",
   "2e7%f2E15u%3t7E5%38gEf975%!u%2o!3k%6oF1e6o%1eke$2%1eke$2%"]

private def runs : Array (Nat × Category) :=
  (readRuns 1 table).map fun r => (r.1, ofSymbol r.2)

def ofChar (c : Char) : Category := (lookup runs c.toNat).getD unassigned

/-- The one-letter name of the group. -/
def major (c : Category) : String := .ofList (c.name.toList.take 1)

end Category
end Turnstile.Unicode
