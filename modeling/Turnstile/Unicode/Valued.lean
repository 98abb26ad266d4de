import Turnstile.Unicode.Runs

/-! Properties of characters that have several values. A last run holds the characters without a value. -/
namespace Turnstile.Unicode

structure Valued where
  /-- The names of each value, in lower case and without separators. -/
  names : Array (List String)
  runs : Array (Nat × Nat)

namespace Valued

private def ofTable (names : Array (List String)) (table : List String) : Valued :=
  ⟨names, (readRuns 1 table).map fun r => (r.1, r.2.front.toNat - 65)⟩

/-- The position of a character's value in the names. -/
def ofChar (p : Valued) (c : Char) : Option Nat := lookup p.runs c.toNat

def byName? (p : Valued) (name : String) : Option Nat := p.names.findIdx? (·.contains name)

private def ageNames : Array (List String) :=
  #[["1.1", "v11"], ["2.0", "v20"], ["2.1", "v21"], ["3.0", "v30"], ["3.1", "v31"],
    ["3.2", "v32"], ["4.0", "v40"], ["4.1", "v41"], ["5.0", "v50"], ["5.1", "v51"],
    ["5.2", "v52"], ["6.0", "v60"], ["6.1", "v61"], ["6.2", "v62"], ["6.3", "v63"],
    ["7.0", "v70"], ["8.0", "v80"], ["9.0", "v90"], ["10.0", "v100"], ["11.0", "v110"],
    ["12.0", "v120"], ["12.1", "v121"], ["13.0", "v130"], ["14.0", "v140"],
    ["15.0", "v150"]]

private def ageTable : List String :=
  ["dyA4DuA8DFGiD3GbHeI2hA5D2G1bADaA5DhG1yA9DF8G5H3G2ADdF4J2A2J2ZA3IAP4Z7AZAZkAZ18AJ7AD2FADADADA",
   "DiA2EF5G4HDcAD1uADcAD15AJ2D2F4D1hA2F2A2F2A2FIsA2D8A2H2A6IgF4IgJ2K2L8PZ12A2Z7AT13ATAD2Z2PMZhB",
   "HdBaAI9AB3H8ZrA4ZT5AbZ4GMP5JHA9G5JAOXHALqA5JjA3D3G6HLeA2F20A2D5ADfADuA2GaA5DGeDZuD3GrD2Z3GuH",
   "iJ1dDFeZ1nI2Z3T1aK2ZfKZsL2ZLZbS5ZvXZ2X6Z8XMPbM6P2QX8RaWbXTfRQrMPK3AG1hA2LiAKL5AK2LpA2J5LP2K2",
   "IH2IP3AZ8A2Z2A2ZmAZ7AZA3Z4A2ZAG7A2Z2A2Z3AH8ZA4Z2AZ5A2ZlAK2ST2ZGAGZ6A4Z2A2ZmAZ7AZ2AZ2AZ2A2ZAZ",
   "5A4Z2A2Z3A3ZJ7Z4AZA7ZfAJTaZ3AZ7AGAZ3AZmAZ7AZ2AZ5A2ZaAZ3AZ3A2ZAfZA3G2ZaAMG7ZQ6SZ3AZ8A2Z2A2ZmA",
   "Z7AZ2AZG4A2Z8AJ2Z2A2Z3A7ZW2A4Z2AZ3A2J2ZbAG6LaZ2AZ6A3Z3AZ4A3Z2AZAZ2A3Z2A3Z3A3Z8AH3A4Z5A3Z3AZ4",
   "A2ZJ6ZAeZHcA8G5ZP3AT8AZ3AZnAZaAP5A2ZXJ7AZ3AZ4A7Z2AZ2JQ2ZX2Z2A2J2ZaA7ZU8JRP2AT8AZ3AZnAZaAZ5A2",
   "Z2G7AZ3AZ4A7Z2A6ZXAZ2A2I2ZaAZ2IYcZSP2AW8AZ3AZnALgAL2SJ6AJZ3AZ4ALR4Z3RA7RQ2A2J2ZaA6J3R7JZW2DZ",
   "iD3ZoDZ9DZD2Z7D3ZD4Z6DZDZ8D6ZaP2Z3DcZ1mA4ZtA11Z2AZAZU2AUAZUA6U4AU7AU3AZAZA2U2AUdAU3A2Z5AZAZ6",
   "AYZaA2Z2A2MwZ20BZxBD2J4ZrB4L6BDBZlB3D7BDB3DZfDZJD2H3J4K2L11ZyDJ5DJ2DJ7D3J4D6JqD1sJ4K2J12AZM5",
   "ZM2Z13A2F2HAH3M2iA5K1wA5K2aA6K7DH1rDHDZ4D2Z7DZDZ4D2Z13DHDZ4D2ZvDHDZ4D2Z7DZDZ4D2Z7DH7DZnDHvDH",
   "DZ4D2Z7DH13DHjD2Z2L2HsD3ZqH6Z2dDQ2Z6Q2ZKhiD9KtD3Z29D8P7ZdFX7FX9ZXnF9ZkFcZdFZ3FZ2FcZ2lDG2ZaD6",
   "ZaG6ZfDXaD6Z2gDT7Z16DJ5Z1yKaZtG2PZcG4ZcG4ZG3Z16G2Z5GbZ16H2K4ZqH6ZaHK3Z2HwGsH2Z2H1rKZtK2ZbK6Z",
   "aK6ZeK2ZfP2WeX1dZ24IX3Z19I2XZ17J3McJ6M1gL8Z4L1kJ3ZfJ3Z1fJ9R7Z17T2Z3T8M8ZzK4MS2PU5Z30G2gH7IsJ",
   "fP4SXRLK2I4bAB4J2iA6JmA2Z6A2Z12A2Z6A2Z8AZAZAZAZvA2Z1hAZfAZeA2Z6AZjA2Z3AZ9AZ1bADnAF6D5F2G2HF7",
   "H5FJZ4O7AF2ZrAZ5H8L3ZbABC3D2F4H3KLN3PQSXfZiA2D7FH4IJfZ1lA2DGHfFH2IJ3K1cADI4JK2Q4Z2jA9DcF6qAe",
   "FAD3dADFuD1gF2GbHcIKbL7P4RS11A2DpZbAlZ3vAkFG46AaF28A8D8FkA2G2FHD2eA2DcF2HaF8GbHJ2K2GgHIaJ3K4",
   "JaKLjKLK4LoKP4AL4A2LsALzALAL4A3LAK7A2L7AeFvA3LoALeAL7H4IMJM2LsF4JgF74De8FeG6H7I5J4I15J3P5J5K",
   "qP2ZwPZWyP3TcPU8PSpT4QfTU1bHX1bHXdI3JK3J4I6J2K2zH7K2M5Z19HZM5ZM2Z1iH2M7ZHLeZLnH9Z7HZ7HZ7HZ7H",
   "Z7HZ7HZ7HZ7HZwJoH4J2HjJKaM7P2R5S5TU3WbXyZqDZ2hDcZ5yDqZcD4Z1kA3D3FDAZ2cA2F2Z6A2F2mAF5Z14AJSTZ",
   "2mAZgAoD3L5WgHkJcZgFtA2GZ10AcKGfFsA2GH1eAfFcA4G1bAV3bA4G2rA2GvAG52uDaW1sGg4mAmH8J8KM9QlS5TdW",
   "3XwdD3ZiD2FgDFcDF3DFD9Z1cK8cJkZwJ2LiJ8MsJ6PQM2gK8ZnH4I5J2I2zJ2LQ2L2McPaLM3PRT2P6Q2T6U2X5U4W5",
   "Z2XZXZ5XoZ3X2WP2ML5J18HW3ZaK6Z1kI8Z1xJR8ZcJ6ZsK2Q2T2cJbZJtK3Z26KZbK4Z2KvPZ1jJ9ZeJ2ZaJ2Z4JsK4",
   "P1vKoZ5KnMaZ6L2Z6L2Z6L9Z7LZ7LZ1cP4Q2P2U4W4Z28Q1aK2ZaK6Z8mcBcZnK4Z1dK4Z1kwB566A2M1nF3K2Z2yH12",
   "Z7AcZ5A5ZDpAZ5AZAZ2AZ2AZ30AgLXgZa5AgX1sA2Z1iA7ZXwEcAFG2XgFaH6Z4A3J7P2QlA2F2GaAZjAZ4A4Z3AFAZ3",
   "rA2ZAZ2mA2F2mA3Z6A2Z6A2Z6A2Z3A3Z7AZ7AaZ3DC3AcGZqGZjGZ2GZfG2ZeGyZ3fG5Z3G4Z19G3Z9G23H2P2RZcJW3",
   "ZP1bZ1aJ3mZtJ3Z1dJfZsP4ZvEP4E9Z3SrE5Z17P5ZuGZG10H4ZeH16Z12E2G12E28G2ZaG6Z10R4Z10R4Z14P8Z1gPb",
   "ZPbXZfXZ7XZ2XZbXZfXZ7XZ2X1vZ8nP9ZmPaZ8PoZ6XZ16XZ9X1xZ6G2ZGZ18GZ2G3ZG2ZGmKZ9K1rP8Z9P1cZjQZ2Q5",
   "Z5QqI2K3ZIqJ5ZJ1sZ1kM4Z2Q2MgQ2Z1aQ4HZ2H5Z8HZ3HZrH2T2Z3H4Z9HT7Z9H7ZwKwPwZ13P4ZcP9Z1iK3ZtK2ZrK",
   "5Z8KiP7Z4PcZ7P28Z21K1jZ1fQdZ1fQ7Z6Q14T8ZaT86ZvKZ16WZ3W2Z2W23Z3Y14T8Z16TmZqX12ZsWkZnU9Z26L4Zu",
   "L6X9ZP1uKXaZT2ZpM7ZaM6Z1hMZeM3TW8Z13P9Z21M4QP2WaMP5QZkPbZiPZ17PR3Y1qZ7QZQZ4QZfQZbQ6Z1nP5ZaP6",
   "ZQ3PZ8P2Z2P2ZmPZ7PZ2PZ5PZT9P2Z2P2Z3P2ZQ6ZP5Z7P2Z7P3Z5P3vZ2iRWRZRTU2WuZ20P8ZaP4mZ1iP2ZiPkQyZ1",
   "xPbZaP6ZdRjZ1kMUX6ZaM1iZqQT2ZfQ4ZgQ7X55Z1oT2sZ2bPcZP7W2ZW2Z8WZ2WZuWZ2W2ZcW9ZaW1yZ8U2Z1aU2ZbU",
   "rZ20S8Z1gS2UnST5SdZgX1lP7ZaY6uZ9RZ19RZeRaZtR3ZwR2ZmRZeR21Z7SZ2SZ18S3ZSZ2SZ9S8ZaS6Z6TZ2TZ11TZ",
   "2TZ6T7ZaT8mZpT7ZhYZ15Y3ZsY2eZWfZ1eUdZUofI16PQ2uZ2rIcPZ4IPbZ5gQ218Z2rXdZtrKY9UtY33eZg7Q6ntZft",
   "L7ZvPZaP4Z2P27XZaX6ZuP2Z6PaZ1yPaZaPZ7PZlP5ZjPj4Z2jT2tZ1xM6U4ZU1bM9U7ZhM1sZRS2UWbZ2WeZ4q5R5T6",
   "U8ZkzRdfW16Z9W6w7Z4XZ7XZ2XZ2L7xS4XfZYtZ3U2ZYeZ4U8Zb0S1s4Z2zP5ZdP3Z9P7ZaP2Z8P3mkZ1aX2ZnX9Z38X",
   "1oZ6uEaZ13E2ZJ50EbQ2XlZ1yH3eZkYcZkTcZ2fG9ZiI7T3rZ2dEZ1zEZ2E2ZE2Z2E2Z4EZcEZEZ4EG2EZ1tEZ4E2Z8E",
   "Z7EZsEZ4EZ5EZE3Z7EZ9eE2H2Z82E2I2Z1eEi4QfZ5QZfQuoZvX6Z6Y5xZ7RZhR2Z7RZ2RZ5R5Z1qYxZY34Z19U3ZeU2",
   "ZaU4Z2U8wZvXhZ1mU5ZUcwZ16YkmZ7XZ4XZ2XZfXZ5hP2ZgP15Z23RU4ZaR4Z2RltZ1wT24Z1pU5eZ4MZrMZ2MZM2ZMZ",
   "aMZ4MZMZM6ZM4ZMZMZMZ3MZ2MZM2ZMZMZMZMZMZ2MZM2Z4MZ7MZ4MZ4MZMZaMZhM5Z3MZ5MZhM1gZ2M7iZ18J4Z2sJcZ",
   "fL2ZeLPZfLZfLmPaZbK2P3WvKTLKbLKLK2LK3LK3L5K8LK7LKaL2MU3W9LKL2K2LKaL4K2LKaLiRW1kZqLK2LdZyK9LR",
   "4Z9K7Z2LeZ6S4aZxLcP3Q6LP1yLP2QkLcP11LP5L4P5QcPhL7P8Q1rLPLP52LP4L2PQ1qL2P4M7P5QoLiPR15PR2eP5L",
   "MgLM3LMLMLMLM3LM6L2M4LML2M4LMcL2P2QbL1cP1yLaPQ2R2SU2W4ZY3XdP3Z4P3R2STU2W3Z38L3Y4Z5Y2dP4TY6Zc",
   "U4ZXfZcP4Z1kP8ZaP6Z14P8ZuP2Z2W26ZcSW3U9Q6RS8R8SR2ScRUcRS3TfRdS5TUW4T2WXTU4T5QdR6SbT2W6U3W2Ua",
   "T6UQ2T8UWX3UnSpT2cUcZeT2Z4UW3Y3U2X3Z3U4W2Y7Z6UjW4X3Y7W4X3YZY3W3X8Z2Y7W3X2Y4Z8XY7Z7X2Y7Z43WZ1",
   "jW11ZaWskZ2BwyfE7W2XwZ379K4XY6Z66L2Z4g2QeZ5rlS2e7Zf2E15sZ2B3t7W5Z38gY17imZ2B1ekeZ2B1ekeZ2B1e",
   "keZ2B1ekeZ2B1ekeZ2B1ekeZ2B1ekeZ2B1ekeZ2B1ekeZ2B1ekeZ2BZEuZ2oE3kZ6oG1e6mZ2t4yB"]

/-- The version in which a character was assigned. The versions are in order. -/
def age : Valued := .ofTable ageNames ageTable

private def graphemeBreakNames : Array (List String) :=
  #[["cr"], ["cn", "control"], ["ex", "extend"], ["l"], ["lf"], ["lv"], ["lvt"],
    ["pp", "prepend"], ["regionalindicator", "ri"], ["sm", "spacingmark"], ["t"],
    ["v"], ["zwj"]]

private def graphemeBreakTable : List String :=
  ["aBE2BAiB2nNxBdNBgiN34C7nN7C7bN19CNCN2CN2CNC1kN6HaNbCNB1aNlCgNC2tN7CHN6C2N2CN4CxNHNCuNrC2jNbC",
   "1mN9C9NCoN4CN9CN3CN5C17N3C1gN2H6N8C16NoCHwCJ1iNCJCN3J8C4JC2JN7CaN2CtNC2J1kNCNC2J4C2N2J2N2JC9",
   "NCaN2CqNC2N2CJ1kNCN3J2C4N2C2N3C3NCuN2C3NCbN2CJ1kNCN3J5CN2CJN2JCkN2CmN6CNC2J1kNCN2CJ4C2N2J2N2",
   "JC7N3CaN2CuNC1nNCJC2J3N3JN3JC9NC14NC3JC1jNCN3C4JN3CN4C7N2CbN2CtNC2J1kNCNJC2JC2JNC2JN2J2C7N2C",
   "bN2CfNJcN2C2J1jN2CNC2J4CN3JN3JCH8NCaN2CtNC2J1yNC4NC2J3CNCN7JCiN2J1pNCNJ7CcN8C2qNCNJ9CbN7C21N",
   "2CrNCNCNC4N2J1dNeCJ5CN2C5NbCN10C9NC2uN4CJ6CN2C2J2CnN2J2C4N3CgN4CdNCNJ2C6NCfNC2qN2oD20L2gK9pN",
   "3CqaN3CJsN2CJtN2CuN2C1sN2CJ7C8JC2JbC9NC19N3CBC39N2CyNC3aN3C4J2C3J4N2JC6J3C63N2C2JC1lNJCJ7CNC",
   "NC2N8C6JaC2NC1cNvC1dN4CJ1bN7CJC5JC2J12N9CcN2CJuNJ4C2J2CJ3C1kNCJ2C3JCJ3C2J1cN8J8C2J2C48N3CNdC",
   "J7C4NC6NC2NJ2C5iN1sCejNBCM2BoN7B1dNgB2oNxC2daN3C3xNC2oNwCfeN6C2xN2Cn9wN4CNaCwN2C28N2C7kNC3NC",
   "4NCnN2J2CJ4NC2bN2J1eNgJ2CqNiCdNC12N8CpNbC2JcNtD3N3CJ1bNC2J4C2J2C3J10NC1vN6C2J2C2J2CcNC8NCJ1a",
   "NC1fNCN3C2N2C5N2CNC15NJ2C2J5NJC6kN2JC2JC2JNJCiNFrGFrGFrGFrGFrGFrGFrGFrGFrGFrGFrGFrGFrGFrGFrG",
   "FrGFrGFrGFrGFrGFrGFrGFrGFrGFrGFrGFrGFrGFrGFrGFrGFrGFrGFrGFrGFrGFrGFrGFrGFrGFrGFrGFrGFrGFrGFr",
   "GFrGFrGFrGFrGFrGFrGFrGFrGFrGFrGFrGFrGFrGFrGFrGFrGFrGFrGFrGFrGFrGFrGFrGFrGFrGFrGFrGFrGFrGFrGF",
   "rGFrGFrGFrGFrGFrGFrGFrGFrGFrGFrGFrGFrGFrGFrGFrGFrGFrGFrGFrGFrGFrGFrGFrGFrGFrGFrGFrGFrGFrGFrG",
   "FrGFrGFrGFrGFrGFrGFrGFrGFrGFrGFrGFrGFrGFrGFrGFrGFrGFrGFrGFrGFrGFrGFrGFrGFrGFrGFrGFrGFrGFrGFr",
   "GFrGFrGFrGFrGFrGFrGFrGFrGFrGFrGFrGFrGFrGFrGFrGFrGFrGFrGFrGFrGFrGFrGFrGFrGFrGFrGFrGFrGFrGFrGF",
   "rGFrGFrGFrGFrGFrGFrGFrGFrGFrGFrGFrGFrGFrGFrGFrGFrGFrGFrGFrGFrGFrGFrGFrGFrGFrGFrGFrGFrGFrGFrG",
   "FrGFrGFrGFrGFrGFrGFrGFrGFrGFrGFrGFrGFrGFrGFrGFrGFrGFrGFrGFrGFrGFrGFrGFrGFrGFrGFrGFrGFrGFrGFr",
   "GFrGFrGFrGFrGFrGFrGFrGFrGFrGFrGFrGFrGFrGFrGFrGFrGFrGFrGFrGFrGFrGFrGFrGFrGFrGFrGFrGFrGFrGFrGF",
   "rGFrGFrGFrGFrGFrGFrGFrGFrGFrGFrGFrGFrGFrGFrGFrGFrGFrGFrGFrGFrGFrGFrGFrGFrGFrGFrGFrGFrGFrGFrG",
   "FrGFrGFrGFrGFrGFrGFrGFrGFrGFrGFrGFrGFrGFrGFrGFrGFrGFrGFrGFrGFrGFrGFrGFrGFrGFrGFrGFrGFrGFrGFr",
   "GFrGFrGFrGFrGFrGFrGFrGFrGFrGFrGFrGFrGFrGFrGFrGFrGFrGFrGFrGFrGFrGFrGFrGFrGFrGFrGFrGFrGFrGFrGF",
   "rGFrGFrGFrGFrGFrGFrGFrGFrGFrGFrGFrGFrGFrGFrGFrGFrGFrGFrGFrGFrGFrGFrGFrGFrGFrGFrGFrGFrGFrGFrG",
   "FrGFrGFrGFrGFrGFrGFrGFrGFrGFrGFrGFrGFrGFrGFrGFrGcNnL4N1dK6xuNCkhNgCgNgC5rNB4eN2C28NcBe9NC6aN",
   "C45N5C1aeN3CN2C5N4C14N3C4NC4lN2CfxN4CarN2C28N3C1yNbC1dN4C3eNJCJ1hNfC15NC2N2CaN3CJ19N3J4C2J2C",
   "2NH4NCaNH1eN3C10N5CJ8CgN2J18NCcN2CJ1cN3J9C2JN2H5N4CNJC2kN3J3C2JCJ2C6NC2NC4dNC3J8ClN2C2J1jN2C",
   "NCJC4J2N2J2N3J9NCaN2J2N7C3N5C5cN3J8C2J3CJCnNC29NC2J6CJC2JCJ2CJ2C6jNC2J4C2N4J2CJ2CrN2C2aN3J8C",
   "2JCJ2C2yNCJC2J6CJC2tN3C2N4CJ5C74N3J9CJ2C6tNC5JN2J2N2CJCHJHJC3xN3J4C2N2C4JC3NJsNaC14N6CJH4C8N",
   "C9N6C2J3C14N6HdCJ2Cb9NJ7CN6CJC2aNmCNJ7CJ2CJ2C3eN6C3NCN2CN7CHC1uN5JN2CN2JCJC9nN2C2J9N2CHJ1cN2",
   "J5C3N2JCJC44tNgBC6NfCasaN5C1nN7Ct4NCN1jJ7N4C29NCbN2Jf57N2CN4B3mkN1aC2NnCf2NCJ3C3NJ5C8B8C2N7C",
   "uN4C44N3C1izN1jC4N1eC8NCeNCmN5CNfC11sN7CNhC2N7CN2CN5C2sNC4gN7CafNC1pN4Ce4N4CrkN7C31N7C1p7NqI",
   "e3N5Cgx6oNwB2oC3kB6oC2s0B44jkN"]

def graphemeBreak : Valued := .ofTable graphemeBreakNames graphemeBreakTable

private def wordBreakNames : Array (List String) :=
  #[["aletter", "le"], ["cr"], ["doublequote", "dq"], ["extend"],
    ["ex", "extendnumlet"], ["fo", "format"], ["hebrewletter", "hl"],
    ["ka", "katakana"], ["lf"], ["midletter", "ml"], ["midnum", "mn"],
    ["mb", "midnumlet"], ["newline", "nl"], ["nu", "numeric"],
    ["regionalindicator", "ri"], ["singlequote", "sq"], ["wsegspace"], ["zwj"]]

private def wordBreakTable : List String :=
  ["aSI2MBiSQSC4SP4SKSLSaNJK5SqA4SESqAaSM10SA2SF7SASJ2SA5SnASvASdcA6SyA34D5AS2A2S4AKA6SAJ3ASASkA",
   "S2bAS3vAS7D4mAS12A2S4ASAJ15AKA6S19DSDS2DS2DSD8SrG4S4GAJbS6F6S2K2SbDSF3S17AlDaNSNKS2AD2rASA7D",
   "FS6D2A2DS4D2AaN3A2SAfSFADuArD2S2hAbDAeSaNxA9D2A2SKSA2SD2SmA4DA9DA3DA5DiSpA3D4SbA5SoAS6AS2F6S",
   "8D16AoDFxD1iA3DAiDA7DaA2D2SaNSgA3DS8A2S2A2SmAS7ASA3S4A2SDA7D2S2D2S3DA8SD4S2AS3A2D2SaN2AaSASD",
   "2S3DS6A4S2A2SmAS7AS2AS2AS2A2SDS5D4S2D2S3D3SD7S4ASA7SaN2D3ADbS3DS9AS3ASmAS7AS2AS5A2SDA8DS3DS3",
   "D2SAfS2A2D2SaN9SA6DS3DS8A2S2A2SmAS7AS2AS5A2SDA7D2S2D2S3D7S3D4S2AS3A2D2SaNSAgSDAS6A3S3AS4A3S2",
   "ASAS2A3S2A3S3A3ScA4S5D3S3DS4D2SA6SDeSaNgS5D8AS3ASnASgA2SDA7DS3DS4D7S2DS3A2SA2S2A2D2SaNgSA3DS",
   "8AS3ASnASaAS5A2SDA7DS3DS4D7S2D6S2AS2A2D2SaNS2ADcS4D9AS3AS15A2DA7DS3DS4DA5S3AD7S3A2D2SaNaS6AS",
   "3DSiA3SoAS9ASA2S7A3SD4S6DSDS8D6SaN2S2D1pSD2S7DcS8DSaN2fSD2S9DbS7DSaN12SAnS2D6SaNbSDSDSD4S2D8",
   "AS10A4SkDS2D5AbDS10D9SD2sSkDSaNcS4D4S3DS3D2S7D3S4DdScDSDaN4D2S12ASA5SA2S17AS99AS4A2S7ASAS4A2",
   "S15AS4A2SxAS4A2S7ASAS4A2SfAS1lAS4A2S1vA2S3DwSgAgS2eA2S6A3Sh8A2ShAQqA5S23A3SbA7SiA4D9SjA3DbSi",
   "A2DcSdAS3AS2D1sSwD9SD2SaNxS3DFDaN6S2hA7S5A2DyADA5S1yAaSvAScD4ScDaSaN3kSaN12SnA5D1lSaDStD2SDa",
   "N6SaNmSvD1dS5D1bAhD8A3SaNhS9DcS3DuAdD2AaN18AeDcS10AkD8SaN3S3AaN10A2S9A7S17A2S3AgS3DSlD4AD6AD",
   "2A3DA5S5cA1sD7qA2S6A2S12A2S6A2S8ASASASASvA2S1hAS7ASA3S3AS7A3S4A2S6A4SdA5S3AS7A3S7QS3QSDR2F8S",
   "2LaSL2SJ2M5FEfS2E3SKfSEaSQ5FSaFSAdSAgSdA1fSxDhSA4SA2SaASA3S5A6SASASAS4ASbA2S4A5S5A4SAhS15Aml",
   "S1gA1eeS6dA6S4A3D2AcS12ASA5SA2S1kA7SAfSDnA9S7AS7AS7AS7AS7AS7AS7AS7ASwD1bSAcwSQ4SA10S6DS5H5S2",
   "A2kS2D2H3S2jHS4H5S17AS2mAhSwA1cSgH5sS1bHS2gHlgoSwdA1vS1aA2S7hA3SgAaN2AkS1bA4DSaDSvA2D28A2DmS",
   "5fA5S2ASAS5AoSgAD3AD4ADnA5D4SDjS1gAcS2D1eAiDaSaN6SiD6A3SAS2ADaNsA8D2SnAdDcStA3S4D1bAeDeSAaNb",
   "SDaSaN6S15AeD9S3AD8A2D2SaNxS3D1eSDS3D2S2D5S2DSDuSbA5D2S3A2DaS6A2S6A2S6A9S7AS7AS1mA6S37A8DS2D",
   "2SaN6S8mcAcSnA4S1dA6x0S7AcS5A5SGDaGSdGS5GSGS2GS2GSaG2qAxSa3AiS1sA2S1iA14ScA4SgDK2SJKbSgD3S2E",
   "oS3EKSLSKJqS5AS3rA2SF7SL4SKSLSaNJK5SqA4SESqAbS1kH2DvA3S6A2S6A2S6A2S3AsS3F4ScASqASjAS2ASfA2Se",
   "AyS3fA1xS1hA3sSD3mStA3S1dAfSDvSwAdSuA5S12A5D5SuA2S10A4S8AS5A16S4eA2SaN6S10A4S10A4S14A8S1gAcS",
   "bASfAS7AS2ASbASfAS7AS2A1vS8nA9SmAaS8AoS6AS16AS9A1xS6A2SAS18AS2A3SA2SnAaSnA9SvA1tSjAS2AaSmAaS",
   "qA1yS1kA6S2A1sSA3DS2D5S4D4AS3AStA2S3D4SDwStA3StAzS8ASsA2DpS1iAaSmAaSjAdSiA32S21A1jS1fAdS1fAd",
   "S10A4D8SaN92S16AS2D3S2A23S3DtAaSA8SmAbDvSiA4D16SlArSnA9S3D1hAfDvSaND2A2DA9S4D19AbD2SF4SDaSF2",
   "SpA7SaN6S3D10AeDSaN4SA2DA8SzAD2SA9S3D1cAeD4A4S4DS2DaNASAzSiASpAcD6SD2AD1qS7ASAS4ASfASaA7S1bA",
   "cD5SaN6S4DS8A2S2A2SmAS7AS2AS5AS2DA7D2S2D2S3D2SA6SD5S5A2D2S7D3S5D3vS1hAiD4A5SaN4SD3AuS1cAkD2A",
   "SA8SaN4mS1bA7D2S9DnS4A2DyS1cAhD3SAbSaN12S17AdDA7SaN2bSfD4SaN5iS18AfD2tS1sAaNlS8A2SA2S8AS2ASo",
   "A6DS2D2S4DADA2DcSaN1yS8A2S13A7D2S7DASADrSAaD14A7DA4D8SD8SAbD1aAgD3SAiS21A7bS9AS11A8DS8DAfSaN",
   "oSuA2SmDSeD21S7AS2AS12A6D3SDS2DS7DAD8SaN6S6AS2ASwA5DS2DS5DA7SaN8mSjA4D9S2DADdASyA7D3S5DdSaN2",
   "eSA27SpmA2uS33AhS5gA218S2pAfStsAgFD6AfD33eSg7A6ntSftA7SvASaN6S27ASaN6SuA2S5DbS1cA7D9S4AcSaN9",
   "SlA5SjAj4S1sA3kS23A4SDA1jD7S4DdA1sS2ASADbS2Dcn2S4HS7HS2HSH7zS3H1eSHeS4H23cS2zA5SdA3S9A7SaA3S",
   "2DS4F3mkS1aD2SnDf2S5D3S6D8F8D2S7DuS4D44S3DcbS2dAS1zAS2A2SA2S2A2S4AScASAS7AS1tAS4A2S8AS7ASsAS",
   "4AS5ASA3S7AS9gA2SpASpASvASpASvASpASvASpASvASpAS8A2S1eNe8S1jD4S1eD8SDeSDmS5DSfDuoSvA6S6A5xS7D",
   "ShD2S7DS2DS5D5S1qAxSD34S19A3S7D7A2SaN4SA8xSuADhS18A4DaNd2SsA4DaNkmS7AS4AS2ASfAS5hAbS7D15S1wA",
   "7DA4SaNx2S4ASrAS2ASA2SASaAS4ASASA6SA4SASASAS3AS2ASA2SASASASASAS2ASA2S4AS7AS4AS4ASASaAShA5S3A",
   "S5AShAhgSqA6SqA6SqA2kSqOe3S5D1kgSaNgvlzSFuS2oD3kS6oD47bkS"]

def wordBreak : Valued := .ofTable wordBreakNames wordBreakTable

private def sentenceBreakNames : Array (List String) :=
  #[["at", "aterm"], ["cr"], ["cl", "close"], ["ex", "extend"], ["fo", "format"],
    ["lf"], ["lo", "lower"], ["nu", "numeric"], ["le", "oletter"], ["sc", "scontinue"],
    ["st", "sterm"], ["se", "sep"], ["sp"], ["up", "upper"]]

private def sentenceBreakTable : List String :=
  ["9OMF2MBiOMKC4O3C2O2JAOaHJ4OKOqNCOC3OqGCOC7OLqOM9OGCOE7OG4OGC4OnNO7NoGO8GNGNGNGNGNGNGNGNGNGNG",
   "NGNGNGNGNGNGNGNGNGNGNGNGNGNGNGNGNGN2GNGNGNGNGNGNGNGN2GNGNGNGNGNGNGNGNGNGNGNGNGNGNGNGNGNGNGNG",
   "NGNGNGNG2NGNGN3G2NGNG2NG3N2G4NG2NG3N3G2NG2NGNGNG2NGN2GNG2NG3NGNG2N2GIN3G4I2NG2NG2NGNGNGNGNGN",
   "GNGNGN2GNGNGNGNGNGNGNGNGN2G2NGNG3NGNGNGNGNGNGNGNGNGNGNGNGNGNGNGNGNGNGNGNGNGNGNGNGNGNGNGNGNGN",
   "7G2NG2N2GNG4NGNGNGNGN1xGI10G7I2G4OcIeO5G7OIOIhO34DNGNGIONG2O4GON6ONO3NONO2NGhNO9NzGN2G3N3GNG",
   "NGNGNGNGNGNGNGNGNGNGN5GNGONG2N2G1fN1cGNGNGNGNGNGNGNGNGNGNGNGNGNGNGNGNGNGO7DNGNGNGNGNGNGNGNGN",
   "GNGNGNGNGNGNGNGNGNGNGNGNGNGNGNGNGNGNG2NGNGNGNGNGNGN2GNGNGNGNGNGNGNGNGNGNGNGNGNGNGNGNGNGNGNGN",
   "GNGNGNGNGNGNGNGNGNGNGNGNGNGNGNGNGNGNGNGNGNGNGNGNGNGNGNGNGO12N2OI3OJ2O15GK7O19DODO2DO2DOD8OrI",
   "4O5IcO6E6O2J2ObDOE3K17IlDaHO2HO2ID2rIKI7DEO6D2I2DO4D2IaH3I2OI3KcOEIDuIrD2O2hIbDIeOaHxI9D2I2O",
   "JKI2OD2OmI4DI9DI3DI5D9OKOK3O2KOpI3D4ObI5OoIO6IO2E6O8D16IoDExD1iI3DIiDI7DaI2D2KaHOgI3DO8I2O2I",
   "2OmIO7IOI3O4I2ODI7D2O2D2O3DI8OD4O2IO3I2D2OaH2IaOIOD2O3DO6I4O2I2OmIO7IO2IO2IO2I2ODO5D4O2D2O3D",
   "3OD7O4IOI7OaH2D3IDbO3DO9IO3IOmIO7IO2IO5I2ODI8DO3DO3D2OIfO2I2D2OaH9OI6DO3DO8I2O2I2OmIO7IO2IO5",
   "I2ODI7D2O2D2O3D7O3D4O2IO3I2D2OaHOIgODIO6I3O3IO4I3O2IOIO2I3O2I3O3I3OcI4O5D3O3DO4D2OI6ODeOaHgO",
   "5D8IO3IOnIOgI2ODI7DO3DO4D7O2DO3I2OI2O2I2D2OaHgOI3DO8IO3IOnIOaIO5I2ODI7DO3DO4D7O2D6O2IO2I2D2O",
   "aHO2IDcO4D9IO3IO15I2DI7DO3DO4DI5O3ID7O3I2D2OaHaO6IO3DOiI3OoIO9IOI2O7I3OD4O6DODO8D6OaH2O2DdO1",
   "cID2I7D5O7I8DOaH13O2IOIO5IOoIOIOaID2I9DI2O5IOIO7DOaH2O4IwOInO2D6OaHbODODOD4C2D8IO10I4OkDO2D5",
   "IbDO10D9OD1lO17IkDIaH2K4O6I4D4I3DI3D2I7D3I4DdIcDIDaH4D2O12NON5ON2O17IOG98IO4I2O7IOIO4I2O15IO",
   "4I2OxIO4I2O7IOIO4I2OfIO1lIO4I2O1vI2O3D2OK4O2KnOgIgO2eN2O6G3Oh8IOKhIMqI2C3O23I3ObI7OiI4D9OjI3",
   "D2K9OiI2DcOdIO3IO2DcO1gIwD3OI4OID2OaHoOJK4OJKO3DEDaH6O2hI7O5I2DyIDI5O1yIaOvIOcD4OcD8O2KaHuI2",
   "O5IbO18I4OqI6OaH12OnI5D4O1hIaDOtD2ODaH6OaHdOI4K4OvD1dO5D1bIhD8I3OaH2K2O2KbO9D9O2KO3DuIdD2IaH",
   "18IeDcO10IkD3O2K3OaH3O3IaH10I2K9G7O17I2O3IgO3DOlD4ID6ID2I3DI5O5cG1sDNGNGNGNGNGNGNGNGNGNGNGNG",
   "NGNGNGNGNGNGNGNGNGNGNGNGNGNGNGNGNGNGNGNGNGNGNGNGNGNGNGNGNGNGNGNGNGNGNGNGNGNGNGNGNGNGNGNGNGNG",
   "NGNGNGNGNGNGNGNGNGNGNGNGNGNGNGNGN9GNGNGNGNGNGNGNGNGNGNGNGNGNGNGNGNGNGNGNGNGNGNGNGNGNGNGNGNGN",
   "GNGNGNGNGNGNGNGNGNGNGNGNGNGNGNGNGNGNGNGN9G8N6G2O6N2O8G8N8G8N6G2O6N2O8GONONONON8G8NeG2O8G8N8G",
   "8N8G8N5GO2G5NOG3O3GO2G5N3O4G2O2G4N4O8G5N5O3GO2G5N3ObME2D2E3O2J3O8C4OA3O2L5EM9O2CO2K7O2C3KlOM",
   "5EOaEOGbO2CGdO2COdG1fOxDhON4ON2OG3N2G3NGON3O5N6ONONONO4NOG4NG4IG2O2G2N5ON4G4OGhOgNgG3ING4Ian",
   "O4CtO2CazOqNqGhdO6C7OeC27O2CvOaCb7OmC1rO4CwO2CeaO1cN1cGNG3N2GNGNGNG4NGN2GN8G3NGNGNGNGNGNGNGN",
   "GNGNGNGNGNGNGNGNGNGNGNGNGNGNGNGNGNGNGNGNGNGNGNGNGNGNGNGNGNGNGNGNGNGNGNGNGNGNGNGNGNGN2G6ONGNG",
   "3DNGcO12GOG5OG2O1kI7OIfODnI9O7IO7IO7IO7IO7IO7IO7IO7IOwDeCeO2C2OaC4OKIcOK5OCgO2K8CbnOMJK2O3Ia",
   "C2O8CO3CO9I6DO5I2O5I4O2eI2O2D2O3IO2iIO4I5O17IO2mIhOwI1cOgIe8O534I1sOh3hI1vO1aIOK7hIO2KgIaH2I",
   "kONGNGNGNGNGNGNGNGNGNGNGNGNGNGNGNGNGNGNGNGNGNGNGI4DOaDOINGNGNGNGNGNGNGNGNGNGNGNGNGN3G2D28I2D",
   "OK3OKvO9I2ONGNGNGNGNGNGN3GNGNGNGNGNGNGNGNGNGNGNGNGNGNGNGNGNGNGNGNGNGNGNGNGNGNGNGNGNGNGNaGNGN",
   "G2NGNGNGNGNGI2ONGNGINGN3GNGNGNGNGNGNGNGNGNGNG5NG5NGNGNGNGNGNGNGNG4NGNG5ONGOGOGNGNGoO3GNGI3G7",
   "ID3ID4IDnI5D4ODjO1gI2O2K8O2D1eIiD8O2KaH6OiD6I3OIO2IDaHsI8DOKnIdDcOtI3O4D1bIeD7O2K5OIaH6O5IDa",
   "IaH5IO15IeD9O3ID8I2D2OaH3O3KnI3OI3D1eIDI3D2I2D5I2DIDIoO3I2ObI5D2K3I2DaO6I2O6I2O6I9O7IO7IO17G",
   "OeG6O28GzI8DK2D2OaH6O8mcIcOnI4O1dI6isOa6I2O2yI12O7GcO5G5OIDaIOdIO5IOIO2IO2IO30IxOa3I2CgO1sI2",
   "O1iI14OcI4OgD2JOJ3O2C7OgDO2J2OgC2O2C7O2JA2OJ2KJ6C4OJcO5IO3rI2OEOK6O2C2O2JAOaHJ4OKOqNCOC3OqGC",
   "OCO2CK2CJO1kI2DvI3O6I2O6I2O6I2O3IsO3E4OcIOqIOjIO2IOfI2OeIyO3fI1xO1hI3sOD3mOtI3O1dIfODvOwIdOu",
   "I5O12I5D5OuI2O10I4O8IO5I16O14N14G26I2OaH6O10N4O10G4O14I8O1gIcObNOfNO7NO2NObGOfGO7GO2G1vO8nI9",
   "OmIaO8IoOG2I3GO16GO9G1xO6I2OIO18IO2I3OI2OnIaOnI9OvI1tOjIO2IaOmIaOqI1yO1kI6O2I1sOI3DO2D5O4D4I",
   "O3IOtI2O3D4ODmO2K8OtI3OtIzO8IOsI2DpO1iIaOmIaOjIdOiI32O21I1jO1fNdO1fGdO10I4D8OaH92O16IO2D3O2I",
   "23O3DtIaOI8OmIbD4O5KmOiI4D4K12OlIrOnI9O3D1hIfD2KtOaHD2I2DI9O4D19IbD2OE4KDaOE2OpI7OaH6O3D10Ie",
   "DOaHO3KI2DI8OzID2OI9O3D1cIeD4I2K2O4DK2DaHIOIO2KwOiIOpIcD2KO2KOD2ID1qO7IOIO4IOfIOaIK6O1bIcD5O",
   "aH6O4DO8I2O2I2OmIO7IO2IO5IO2DI7D2O2D2O3D2OI6OD5O5I2D2O7D3O5D3vO1hIiD4I2K3OaH4OD3IuO1cIkD2IOI",
   "8OaH4mO1bI7D2O9DO2K5OfK4I2DyO1cIhD2KOIbOaH12O17IdDI7OaH1iOrI2OfD4OaH2O3KO7I55O18IfD2tOwNwGaH",
   "lO8I2OI2O8IO2IOoI6DO2D2O4DIDI2DKOK9OaH1yO8I2O13I7D2O7DIOIDrOIaD14I7DI4D3O2K3OD8OIbD1aIgDO2KI",
   "iO21I7bO9IO11I8DO8DI2KdOaHoOuI2OmDOeD21O7IO2IO12I6D3ODO2DO7DID8OaH6O6IO2IOwI5DO2DO5DI7OaH8mO",
   "jI4D2K7O2DIDdIOyI7D3O5D2KbOaH2eOI27OpmI2uO33IhO5gI218O2pIfOtsIgED6IfD33eOg7I6ntOftI7OvIOaH4O",
   "2K27IOaH6OuI2O5DKaO1cI7D2K7O4IKbOaH9OlI5OjIj4OwNwGoOK2vO23I4ODI1jD7O4DdI1sO2IOIDbO2DeO4qgI8O",
   "yeI16O9I6w7O4IO7IO2IO83IfOItO3I2OIeO4I8Ob0I1s4O2zI5OdI3O9I7OaI3O2DK4E3mkO1aD2OnDf2O5D3O6D8E8",
   "D2O7DuO4D44O3DcbOqNqGqN7GOiGqNqGNO2N2ON2O2N2O4NO8N4GOGO7GObGqNqG2NO4N2O8NO7NOqG2NO4NO5NON3O7",
   "NOqGqNqGqNqGqNqGqNqGqNqGqNsG2OpNOpGO6GpNOpGO6GpNOpGO6GpNOpGO6GpNOpGO6GNG2O1eHe8O1jD4O1eD8ODe",
   "OD3OKiO5DOfDuoOaGIkG6O6G5xO7DOhD2O7DO2DO5D5O1qGxOD34O19I3O7D7I2OaH4OI8xOuIDhO18I4DaHd2OsI4Da",
   "HkmO7IO4IO2IOfIO5hIbO7D15OyNyG7DI4OaHx2O4IOrIO2IOI2OIOaIO4IOIOI6OI4OIOIOIO3IO2IOI2OIOIOIOIOI",
   "O2IOI2O4IO7IO4IO4IOIOaIOhI5O3IO5IOhIhgOqN6OqN6OqNz0O3C12vOaHsmOwyoIwO37eI6O66I2O4g2IeO5rlI2e",
   "7Of2I15uO3t7I5O38gIf975OEuO2oD3kO6oD47bkO"]

def sentenceBreak : Valued := .ofTable sentenceBreakNames sentenceBreakTable

end Valued
end Turnstile.Unicode
