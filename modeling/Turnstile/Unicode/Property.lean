import Turnstile.Unicode.Runs

/-! Yes-or-no properties of characters. Every table ends with a run of characters that lack it. -/
namespace Turnstile.Unicode

private def alphabeticTable : List String :=
  ["1tNqY6NqY1bNYaNY4NY5NnYNvYNcqY4NcYeN5Y7NYNY2eNY16N5YN2Y2N4YNY6NYN3YNYNkYN2bYN3vY8N4mYN12Y2NY",
   "6N15Y13NeYNYN2YN2YNY8NrY4N4YtNbY5N1kYN7YeN2uYN8Y4N8Y4N3YaN3Y2NYgN1cYdN2tYoNxY9N2Y4NY5NoY2NjY",
   "jNpY7NbY5NoYN6YhN16YaNcY3N7Y6N24YNgYN3Y4NfYdNjYN8Y2N2Y2NmYN7YNY3N4Y3N8Y2N2Y2N2YNY8NY4N2YN5Yc",
   "N2YaNY4N3YN6Y4N2Y2NmYN7YN2YN2YN2Y4N5Y4N2Y2N2Y4NY7N4YNYhN6YbN3YN9YN3YNmYN7YN2YN5Y3N9YN3YN2Y3N",
   "YfN4YlN4Y4N3YN8Y2N2Y2NmYN7YN2YN5Y3N8Y2N2Y2N2Y9N2Y4N2YN5YdNYgN2YN6Y3N3YN4Y3N2YNYN2Y3N2Y3N3Y3N",
   "cY4N5Y3N3YN3Y3NY6NY14NdYN3YNnYNgY3N8YN3YN3Y8N2YN3Y2NY2N4YsN4YN8YN3YNnYNaYN5Y3N8YN3YN3Y8N2Y6N",
   "2YN4YdN3YcNdYN3YN15Y2N8YN3YN3YNY5N4Y7N5YmN6YN3YNiY3NoYN9YNY2N7Y8N6YNYN8YiN2YdN1mY5N7Y6NY1fN2",
   "YNYN5YNoYNYNjYN3Y2N5YNY6NYeN4YwNY1rN8YN10Y4NjY4NgYN10Y1vN1jYNY2N5YgN1sYaN4Y2N12YNY5NY2N17YN9",
   "9YN4Y2N7YNYN4Y2N15YN4Y2NxYN4Y2N7YNYN4Y2NfYN1lYN4Y2N1vY11NgYgN2eY2N6Y3Nh8Y2NhYNqY5N23Y3NbY7Nk",
   "YbNlYcNkYcNdYN3YN2YcN1gY2NjYeNY4NY1vN2hY7N17Y5N1yYaNvYNcY4N9YnNuY2N5YbN18Y4NqY1iNsY4N1rY2NkY",
   "1eNYnN2YbN3Y1dN1gYNfYN8Y1fN16Y2N4YaN18YNbYeN1jYmN3YaN10Y2N9Y7N17Y2N3Y15N4YN6YN2Y3NY5N5cY13Ne",
   "YbN7qY2N6Y2N12Y2N6Y2N8YNYNYNYNvY2N1hYN7YNY3N3YN7Y3N4Y2N6Y4NdY5N3YN7Y38NYdNYgNdY2tNY4NY2NaYNY",
   "3N5Y6NYNYNYN4YNbY2N4Y5N5Y4NYhN15YmlN1gY1eeN6dY6N4Y3N2YcN12YNY5NY2N1kY7NYgNnY9N7YN7YN7YN7YN7Y",
   "N7YN7YN7YNwY1bNYd1N3YpN9Y7N5Y2N5Y4N2eY6N3YN2iYN4Y5N17YN2mYhNwY1cNgYe8N534Y1sNh3hY1vN1aY2N7hY",
   "3NgYaN2YkN1bY5N8Y3N35Y13N9Y2N2vY2N1sY5N2YNYN5YoNkYNxYoN1gYcN1wYNY18N6Y3NYN3YaNxY5NzYdNtY3N1f",
   "YNcYfNYgNgYaN5YN1jY9NeYiNnY3N1xYNYNYoN3Y2NgY2N4YbN6Y2N6Y2N6Y9N7YN7YN17YNeY6N3fYlN8mcYcNnY4N1",
   "dY6isNa6Y2N2yY12N7YcN5Y5NcYNdYN5YNYN2YN2YN30YxNa3YiN1sY2N1iY14NcY38N5YN3rY10NqY6NqYbN2hY3N6Y",
   "2N6Y2N6Y2N3YzNcYNqYNjYN2YNfY2NeYyN3fY1xN1hY7fNtY3N1dY1bNwYdNuY5N17Y5NuY2N10Y4N8YN5Y16N4eYiN1",
   "0Y4N10Y4N14Y8N1gYcNbYNfYN7YN2YNbYNfYN7YN2Y1vN8nY9NmYaN8YoN6YN16YN9Y1xN6Y2NYN18YN2Y3NY2NnYaNn",
   "Y9NvY1tNjYN2YaNmYaNqY1yN1kY6N2Y1sN4YN2Y5N8YN3YNtY16NtY3NtYzN8YNsYrN1iYaNmYaNjYdNiY32N21Y1jN1",
   "fYdN1fYdN14Y9kN16YN2Y3N2Y26NtYaNY8NmY16NiY1aNlYrNnY9N1yY17N5YaN1lY9NYdNpYnN1fYhN4Y8NzY3NY9N1",
   "sYN4Y9N2YaNYNYzNiYNyY2NY6N4Y1qN7YNYN4YNfYNaY7N1lYnN4YN8Y2N2Y2NmYN7YN2YN5Y3N8Y2N2Y2N2Y3NY6NY5",
   "N7Y4cN1uYN3YN4YkN3YuN1uY2N2YNY54N1iY2N7YpN6YyN1rYNY3NY1nN1iY2NY1zNrY2NeYlN7Y55N1lY2vN1sYvN8Y",
   "2NY2N8YN2YNuYN2Y2N2Y2N4Y2lN8Y2N1aY2N6YNYN2YrN1fY2NaYhN20Y5NYiN21Y7bN9YN19YN7YNY1dNuY2NmYNeY2",
   "1N7YN2YN18Y3NYN2YN3YNY2N2YoN6YN2YN11YN2YN4YNY93NnY9NhYN15Y3N3Y33NY27NpmY2uN33YhN5gY218N2pYfN",
   "tsYhN6Y33tNg7Y6ntNftY7NvYhN27YhNuYiN1cYgN4YvNlY5NjYj4N1sY3kN23Y4N1lY7NhY1sN2YNYcN2YeN4qgY8Ny",
   "eY16N9Y6w7N4YN7YN2YN83YfNYtN3Y2NYeN4Y8Nb0Y1s4N2zY5NdY3N9Y7NaY4NY4m9N2dYN1zYN2Y2NY2N2Y2N4YNcY",
   "NYN7YN1tYN4Y2N8YN7YNsYN4YN5YNY3N7YN9gY2NpYNpYNvYNpYNvYNpYNvYNpYNvYNpYN8Y1f8NvY6N6Y5xN7YNhY2N",
   "7YN2YN5Y5N1qYxNY34N19YaN7YgNY8xNuYiN18YdgNsYl0N7YN4YN2YNfYN5hY1nN1wY3NY3NYxgN4YNrYN2YNY2NYNa",
   "YN4YNYNY6NY4NYNYNYN3YN2YNY2NYNYNYNYNYN2YNY2N4YN7YN4YN4YNYNaYNhY5N3YN5YNhYhgNqY6NqY6NqY2uuNwy",
   "oYwN37eY6N66Y2N4g2YeN5rlY2e7Nf2Y15uN3t7Y5N38gYjgwgN"]

private def alphabeticRuns : Array (Nat × String) := readRuns 1 alphabeticTable

def isAlphabetic (c : Char) : Bool := lookup alphabeticRuns c.toNat = some "Y"

private def lowercaseTable : List String :=
  ["2pNqY1bNYaNY4NY10NoYN8YNYNYNYNYNYNYNYNYNYNYNYNYNYNYNYNYNYNYNYNYNYNYNYNYNYNYNYN2YNYNYNYNYNYNY",
   "NYN2YNYNYNYNYNYNYNYNYNYNYNYNYNYNYNYNYNYNYNYNYNYNYNY2NYNYN3Y2NYNY2NY3N2Y4NY2NY3N3Y2NY2NYNYNY2",
   "NYN2YNY2NY3NYNY2N2Y2N3Y6NY2NY2NYNYNYNYNYNYNYNYN2YNYNYNYNYNYNYNYNYN2Y2NYNY3NYNYNYNYNYNYNYNYNY",
   "NYNYNYNYNYNYNYNYNYNYNYNYNYNYNYNYNYNYNYNYN7Y2NY2N2YNY4NYNYNYNYN1xYN10Y7N2YuN5Y2oNY17NYNY3NY2N",
   "4YiNYrNzYN2Y3N3YNYNYNYNYNYNYNYNYNYNYNYN5YNY2NY2N2Y1fN1cYNYNYNYNYNYNYNYNYNYNYNYNYNYNYNYNYNY9N",
   "YNYNYNYNYNYNYNYNYNYNYNYNYNYNYNYNYNYNYNYNYNYNYNYNYNYNY2NYNYNYNYNYNYN2YNYNYNYNYNYNYNYNYNYNYNYN",
   "YNYNYNYNYNYNYNYNYNYNYNYNYNYNYNYNYNYNYNYNYNYNYNYNYNYNYNYNYNYNYNYNYNYNYNYNY1cN15Y287N17YN4Yl4N",
   "6Y1oiN9Y3bN5cY1tNYNYNYNYNYNYNYNYNYNYNYNYNYNYNYNYNYNYNYNYNYNYNYNYNYNYNYNYNYNYNYNYNYNYNYNYNYNY",
   "NYNYNYNYNYNYNYNYNYNYNYNYNYNYNYNYNYNYNYNYNYNYNYNYNYNYNYNYNYNYNYNYNYNYNYNYN9YNYNYNYNYNYNYNYNYN",
   "YNYNYNYNYNYNYNYNYNYNYNYNYNYNYNYNYNYNYNYNYNYNYNYNYNYNYNYNYNYNYNYNYNYNYNYNYNYNYNYN9Y8N6YaN8Y8N",
   "8Y8N6YaN8Y8N8Y8NeY2N8Y8N8Y8N8Y8N5YN2Y6NY3N3YN2Y8N4Y2N2Y8N8YaN3YN2Y3dNYdNYgNdY31NY3N2Y3NYrNY4",
   "NY4NY2N2Y8N4Y4NYxNgY4NYnfNqY1fqN1cYNY3N2YNYNYNY4NYN2YN8Y3NYNYNYNYNYNYNYNYNYNYNYNYNYNYNYNYNYN",
   "YNYNYNYNYNYNYNYNYNYNYNYNYNYNYNYNYNYNYNYNYNYNYNYNYNYNYNYNYNYNYNYN2Y7NYNY4NYcN12YNY5NYnwzNYNYN",
   "YNYNYNYNYNYNYNYNYNYNYNYNYNYNYNYNYNYNYNYNYjNYNYNYNYNYNYNYNYNYNYNYNYNYN3Y3pNYNYNYNYNYNYN3YNYNY",
   "NYNYNYNYNYNYNYNYNYNYNYNYNYNYNYNYNYNYNYNYNYNYNYNYNYNYNYNYNaYNYNY2NYNYNYNYNY4NYNY2NYN3YNYNYNYN",
   "YNYNYNYNYNYNY5NY5NYNYNYNYNYNYNYNY4NYNY6NYNYNYNYNYoN3YNYN3YmtN17YNeY6N28YfnkN7YcN5YtlNqYy5N14",
   "Y3sN10Y4bNbYNfYN7YN2YcjNY2N3YN16YN9YzpN1fY2bxNwYgw0NwYk2iNqYqN7YNiYqNqYqN4YNYN7YNbYqNqYqNqYq",
   "NqYqNqYqNqYqNqYqNqYqNqYqNsYsNpYN6YqNpYN6YqNpYN6YqNpYN6YqNpYN6YNY1f8NaYNkY6N6Y79N1qY1pwNyYl70",
   "cN"]

private def lowercaseRuns : Array (Nat × String) := readRuns 1 lowercaseTable

def isLowercase (c : Char) : Bool := lookup lowercaseRuns c.toNat = some "Y"

private def uppercaseTable : List String :=
  ["1tNqY2tNnYN7YxNYNYNYNYNYNYNYNYNYNYNYNYNYNYNYNYNYNYNYNYNYNYNYNYNYNYNYNY2NYNYNYNYNYNYNYNY2NYNY",
   "NYNYNYNYNYNYNYNYNYNYNYNYNYNYNYNYNYNYNYNYNYN2YNYNY3N2YNYN2YN3Y2N4YN2YN3Y3N2YN2YNYNYN2YNY2NYN2",
   "YN3YNYN2Y3NY7NY2NY2NY2NYNYNYNYNYNYNYNY2NYNYNYNYNYNYNYNYNY2NY2NYN3YNYNYNYNYNYNYNYNYNYNYNYNYNY",
   "NYNYNYNYNYNYNYNYNYNYNYNYNYNYNYNY7N2YN2Y2NYN4YNYNYNYNY81NYNY3NY8NY6NYN3YNYN2YNhYN9YzNY2N3Y3NY",
   "NYNYNYNYNYNYNYNYNYNYNY5NY2NYN2Y2N1fY1cNYNYNYNYNYNYNYNYNYNYNYNYNYNYNYNYNY9NYNYNYNYNYNYNYNYNYN",
   "YNYNYNYNYNYNYNYNYNYNYNYNYNYNYNYNYNYN2YNYNYNYNYNYNY2NYNYNYNYNYNYNYNYNYNYNYNYNYNYNYNYNYNYNYNYN",
   "YNYNYNYNYNYNYNYNYNYNYNYNYNYNYNYNYNYNYNYNYNYNYNYNYNYNYNY2N12Y289N12YNY5NYk2N2eY1p6N17Y2N3Y8wN",
   "YNYNYNYNYNYNYNYNYNYNYNYNYNYNYNYNYNYNYNYNYNYNYNYNYNYNYNYNYNYNYNYNYNYNYNYNYNYNYNYNYNYNYNYNYNYN",
   "YNYNYNYNYNYNYNYNYNYNYNYNYNYNYNYNYNYNYNYNYNYNYNYNYNYNYNYNY9NYNYNYNYNYNYNYNYNYNYNYNYNYNYNYNYNY",
   "NYNYNYNYNYNYNYNYNYNYNYNYNYNYNYNYNYNYNYNYNYNYNYNYNYNYNYNYNYNYNYNY9N8Y8N6YaN8Y8N8Y8N6YbNYNYNYN",
   "Y8N8Y20N4YcN4YcN4YcN5YbN4Y7aNY4NY3N3Y2N3Y2NY3N5Y6NYNYNYN4Y2N4YaN2Y5NYqNgYjNYmqNqY1f4N1cY1cNY",
   "N3Y2NYNYNYN4YNY2NY8N3YNYNYNYNYNYNYNYNYNYNYNYNYNYNYNYNYNYNYNYNYNYNYNYNYNYNYNYNYNYNYNYNYNYNYNY",
   "NYNYNYNYNYNYNYNYNYNYNYNYNYNY8NYNY4NYnylNYNYNYNYNYNYNYNYNYNYNYNYNYNYNYNYNYNYNYNYNYNYNYjNYNYNY",
   "NYNYNYNYNYNYNYNYNYNYNY3rNYNYNYNYNYNYNY3NYNYNYNYNYNYNYNYNYNYNYNYNYNYNYNYNYNYNYNYNYNYNYNYNYNYN",
   "YNYNYNYNYaNYNYN2YNYNYNYNY4NYNY2NYNY3NYNYNYNYNYNYNYNYNYNYN5YN5YNYNYNYNYNYNYNYN4YNY6NY5NYNYsNY",
   "h7vNqYxxN14Y3sN10Y4cNbYNfYN7YN2Y1d6N1fY2ctNwYgw0NwYk2oNqYqNqYqNqYqNYN2Y2NY2N2Y2N4YN8YqNqYqN2",
   "YN4Y2N8YN7YrN2YN4YN5YNY3N7YrNqYqNqYqNqYqNqYqNqYqNqYuNpYxNpYxNpYxNpYxNpYxNY3edNyY1laNqY6NqY6N",
   "qYl5diN"]

private def uppercaseRuns : Array (Nat × String) := readRuns 1 uppercaseTable

def isUppercase (c : Char) : Bool := lookup uppercaseRuns c.toNat = some "Y"

private def whiteSpaceTable : List String :=
  ["9N5YiNY2sNYqNY4bjNY1vjNbYtN2Y5NY1bNY334NYnm67N"]

private def whiteSpaceRuns : Array (Nat × String) := readRuns 1 whiteSpaceTable

def isWhiteSpace (c : Char) : Bool := lookup whiteSpaceRuns c.toNat = some "Y"

private def casedTable : List String :=
  ["1tNqY6NqY1bNYaNY4NY5NnYNvYN5fYN4Y4N5sYN10Y7N2YuN5Y2oNY16N4Y2N2Y2N4YNY6NYN3YNYNkYN2bYN3vY8N4m",
   "YN12Y9N15Y26vN12YNY5NY2N17YN4YioN2eY2N6Y1oiN9Y7N17Y2N3Y1sN5cY1sN7qY2N6Y2N12Y2N6Y2N8YNYNYNYNv",
   "Y2N1hYN7YNY3N3YN7Y3N4Y2N6Y4NdY5N3YN7Y38NYdNYgNdY2tNY4NY2NaYNY3N5Y6NYNYNYN4YN6Y4NY2N4Y5N5Y4NY",
   "hNwY3N2YmpN1gY1eeN6dY6N4Y3N2YcN12YNY5NYnwyN1aYiNuY3oN2uY3N4YN1nY5N2YNYN5YoN5YN3YmtN17YNeY6N2",
   "8YfnkN7YcN5YspNqY6NqYx1N28Y2oN10Y4N10Y38NbYNfYN7YN2YNbYNfYN7YN2YcjNY2N3YN16YN9YxxN1fYdN1fY2b",
   "1N1sYgv4N1sYk1sN2dYN1zYN2Y2NY2N2Y2N4YNcYNYN7YN1tYN4Y2N8YN7YNsYN4YN5YNY3N7YN9gY2NpYNpYNvYNpYN",
   "vYNpYNvYNpYNvYNpYN8Y1f8NaYNkY6N6Y79N1qY1oyN1wY1kcNqY6NqY6NqYl5diN"]

private def casedRuns : Array (Nat × String) := readRuns 1 casedTable

def isCased (c : Char) : Bool := lookup casedRuns c.toNat = some "Y"

private def caseIgnorableTable : List String :=
  ["13NY6NYbNYzNYNY1zNY4NYNY4NY2N2YdzN5cY4N2Y4NY9N2YNY6zN7Y5rNY5NY1dN19YNYN2YN2YNY18NYbN6YaNbYNY",
   "zNYaNlYgNY2tN8YNaYN4YxNYNYuNrY2jNbY1mNbY4NY2NYoNoY17N3Y18NY7N2Y6N8Y15N1mY1jNYNY4N8Y4NY3N7YaN",
   "2YdNYfNY1mNY4N4Y8NYkN2YqNY2N2Y1lNY4N2Y4N2Y2N3Y3NYuN2Y3NYbN2Y1lNY4N5YN2Y4NYkN2YmN6YNY1mNY2NYN",
   "4Y8NY7N2YbN2YuNY1pNYcNY1eNY3NY1jNYN3Y5N3YN4Y7N2YbN2YtNY1mNY2NY6NY5N2YkN2YsN2Y1lN2Y4N4Y8NYkN2",
   "YtNY20NY7N3YNY2iNY2N7YbN9Y2qNY2N9Y9NYN7Y21N2YrNYNYNY1jNeYN5YN2Y5NbYN10Y9NY2uN4YN6YN2Y2N2YpN2",
   "Y4N3YgN4YdNY2N2Y6NYfNY2mNYgwN3YqaN3YtN2YuN2YuN2Y1sN2YN7Y8NY2NbY3NY5NY19N5Y1fNY1tN2YyNY3aN3Y4",
   "N2Y9NY6N3Y63N2Y2NY1mNYN7YNYNY2N8Y6NaY2NY13NY8NvY1dN4Y1cNYN5YNY5NY14N9YcN2YwN4Y2N2YN3Y1kNYN2Y",
   "3NYN3Y1mN8Y2N2Y1sN6Y2aN3YNdYN7Y4NY6NY3N2Y1eN1rYdNYyN2tYcdNYN3YbN3YdN3YdN3YdN2YcN5Y8N2YaNY2NY",
   "2N5Y1dN5YNaYNYdNYgNdY1fNxY2a3N2Y35N3Y3hNYfNY2oNwY1bNYd1NY10N4Y3N5Y5NY2lN6Y2lN3YlxyNYyqN6Y7iN",
   "Y2qN4YNaYNYsN4Y28N2YeNyY26NYnN3Y2vN3Y3N2Y8NY3NY4NYpN2Y5NY47N2YqNiYdNY12N8YpNbY1aN3Y1cNY2N4Y2",
   "N2YhNYlN2Y1uN6Y2N2Y2N2YcNY8NYzNYbNY1fNYN3Y2N2Y5N2YNYrNYeN2Y5N2YNY2sN5Y9N3Y3dNY2NY4NYfn4NY43N",
   "hYfxNgY3NYcNgYyNY2NY4pNY7NY6NYbNYzNYNY1bNY19N2Y1vNYlN3Ye9NY6aNY45N5YslN6YN16YN9Yg6N3YN2Y5N4Y",
   "14N3Y4NY4lN2YfxN4YarN2Y28N3Y1yNbY1dN4Y3fNY1iNfY15NY2N2YaN3Y1dN4Y2N2Y2NY4NYaNY1eN3Y10N5YN8Y1q",
   "NYcN2Y1gN9YaN4Y2NY2nN3Y2NYN2Y6NY2NY4dNY3N8YlN2Y1lN2Y3NY11N7Y3N5Y5fN8Y2N3YNYnNY2cN6YNY4N2YN2Y",
   "6mN4Y6N2YN2YrN2Y2dN8Y2NYN2Y2yNYNY2N6YNY2tN3Y2N4YN5Y77N9YN2Y74N2YNY4NY40N4Y2N2Y4NYwNaY14N6Y2N",
   "4Y8NY9N6Y2N3Y1aNdYN2YbaN7YN6YNY2aNmY2N7YN2YN2Y3eN6Y3NYN2YN7YNY20N2Y3NYNY9nN2YbN2Y1gN5Y5NYNY4",
   "4tNhY6NfYasaN5Y1nN7Y9N4YsrNY1rNhY1sN2YN2YcnfN4YN7YN2Y2hqN2YN4Y3mkN1aY2NnYf4N3Y9NgY2N7YuN4Y44",
   "N3Y1izN1jY4N1eY8NYeNYmN5YNfY11sN7YNhY2N7YN2YN5Y5N1qYxNY4gNeYa8NY1pN4Ye3N5YrkN7Y31N8Y23zN5Ygx",
   "6pNYuN2oY3kN6oY47bkN"]

private def caseIgnorableRuns : Array (Nat × String) := readRuns 1 caseIgnorableTable

def isCaseIgnorable (c : Char) : Bool := lookup caseIgnorableRuns c.toNat = some "Y"

private def idStartTable : List String :=
  ["1tNqY6NqY1bNYaNY4NY5NnYNvYNcqY4NcYeN5Y7NYNY3lN5YN2Y2N4YNY6NYN3YNYNkYN2bYN3vY8N4mYN12Y2NY6N15",
   "Y1zNrY4N4Y19N17YzN2YN2rYNYfN2Y7N2YaN3Y2NYgNYNuYtN2hYbNYoNxY9N2Y4NY5NmY4NY9NY3NYnNpY7NbY5NoYN",
   "6YhN16Y1mN1iY3NYiNY7NaYfNgY4N8Y2N2Y2NmYN7YNY3N4Y3NYgNYdN2YN3YeN2YaNY8N6Y4N2Y2NmYN7YN2YN2YN2Y",
   "vN4YNYjN3YgN9YN3YNmYN7YN2YN5Y3NYiNYfN2YnNYbN8Y2N2Y2NmYN7YN2YN5Y3NYuN2YN3YfNYhNYN6Y3N3YN4Y3N2",
   "YNYN2Y3N2Y3N3Y3NcYmNY1gN8YN3YNnYNgY3NYqN3Y2NY2N2YuNY4N8YN3YNnYNaYN5Y3NYvN2YN2YfN2YhN9YN3YN15",
   "Y2NYgNY5N3Y8N3YoN6Y5NiY3NoYN9YNY2N7Y1mN1cYN2YcN7Y1mN2YNYN5YNoYNYNaYN2Y9NY2N5YNYlN4YwNY1rN8YN",
   "10YrN5Y37N17YkNYgN6Y4N4Y3NY3N2Y7N3Y4NdYcNYhN12YNY5NY2N17YN99YN4Y2N7YNYN4Y2N15YN4Y2NxYN4Y2N7Y",
   "NYN4Y2NfYN1lYN4Y2N1vY11NgYgN2eY2N6Y3Nh8Y2NhYNqY5N23Y3NbY7NiYdNjYeNiYeNdYN3YfN1gYzNY4NY1vN2hY",
   "7N15YNY5N1yYaNvY1dNuY2N5YbN18Y4NqY1iNnY9N1hY2aNY2lN1bYhN8Y1iNuYdN2YaN18YqN10Y15N3YaN10Y2N9Y7",
   "N17Y2N3Y15N4YN6YN2Y3NY5N5cY1sN7qY2N6Y2N12Y2N6Y2N8YNYNYNYNvY2N1hYN7YNY3N3YN7Y3N4Y2N6Y4NdY5N3Y",
   "N7Y38NYdNYgNdY2tNY4NY2NaYNY2N6Y6NYNYNYNgY2N4Y5N5Y4NYhN15Y22fN6dY6N4Y3N2YcN12YNY5NY2N1kY7NYgN",
   "nY9N7YN7YN7YN7YN7YN7YN7YN7YfaN3YpN9Y7N5Y2N5Y4N2eY4N5YN2iYN4Y5N17YN2mYhNwY1cNgYe8N534Y1sNh3hY",
   "1vN1aY2N7hY3NgYaN2YkN1bYgNvY2N28Y13N9Y2N2vY2N1sY5N2YNYN5YoNgYN3YN4YNnYtN1gYeN1eY1qN6Y3NYN2Yb",
   "NsYaNnYpNtY7N1bYsNYgN5YNaYaN5YN15YnN3YN8YkNnY3NY3N1eYNY3N2Y2N5Y2NYNYoN3Y2NbY7N3YcN6Y2N6Y2N6Y",
   "9N7YN7YN17YNeY6N37YtN8mcYcNnY4N1dY6isNa6Y2N2yY12N7YcN5Y5NYNaYNdYN5YNYN2YN2YN30YxNa3YiN1sY2N1",
   "iY14NcY38N5YN3rY10NqY6NqYbN2hY3N6Y2N6Y2N6Y2N3YzNcYNqYNjYN2YNfY2NeYyN3fY1xN1hY7fNtY3N1dY1bNwY",
   "dNuY5N12YaNuY2N10Y4N8YN5Y16N4eYiN10Y4N10Y4N14Y8N1gYcNbYNfYN7YN2YNbYNfYN7YN2Y1vN8nY9NmYaN8YoN",
   "6YN16YN9Y1xN6Y2NYN18YN2Y3NY2NnYaNnY9NvY1tNjYN2YaNmYaNqY1yN1kY6N2Y1sNYfN4YN3YNtY16NtY3NtYzN8Y",
   "NsYrN1iYaNmYaNjYdNiY32N21Y1jN1fYdN1fYdN10Y9oN16Y6N2Y26NtYaNY8NmY16NiY1aNlYrNnYcN1hY1lN2Y2NYd",
   "N19YwNpYqN10YtNY2NY8NzY3NYcN1cYeN4YlNYNYzNiYNpYjN2Y1rN7YNYN4YNfYNaY7N1bY12N8Y2N2Y2NmYN7YN2YN",
   "5Y3NYiNYcN5Y4eN1hYiN4YkN3YuN1cYkN2YNY54N1bY15N4Y10N1cYkNY1nN17YdNY1zNrY11N7Y55N18Y38N1sYvN8Y",
   "2NY2N8YN2YNoYfNYNY2mN8Y2N13YgNYNYsNYaN14Y7NYlNYbN1aYjNYiN21Y7bN9YN11YhNY1dNuY34N7YN2YN12YlNY",
   "pN6YN2YNwYeNY93NjYfNYNdYNyY3gNY27NpmY2uN33YhN5gY218N2pYfNtsYhN6Y33tNg7Y6ntNftY7NvYhN27YhNuYi",
   "N1cYgN4YvNlY5NjYj4N1sY3kN23Y5NY1uNdY1sN2YNYsN4qgY8NyeY16N9Y6w7N4YN7YN2YN83YfNYtN3Y2NYeN4Y8Nb",
   "0Y1s4N2zY5NdY3N9Y7NaY4meN2dYN1zYN2Y2NY2N2Y2N4YNcYNYN7YN1tYN4Y2N8YN7YNsYN4YN5YNY3N7YN9gY2NpYN",
   "pYNvYNpYNvYNpYNvYNpYNvYNpYN8Y1f8NvY6N6Y79N1qY42N19YaN7YgNY8xNuYiN18YdgNsYl0N7YN4YN2YNfYN5hY1",
   "nN1wY7NYxgN4YNrYN2YNY2NYNaYN4YNYNY6NY4NYNYNYN3YN2YNY2NYNYNYNYNYN2YNY2N4YN7YN4YN4YNYNaYNhY5N3",
   "YN5YNhY3esNwyoYwN37eY6N66Y2N4g2YeN5rlY2e7Nf2Y15uN3t7Y5N38gYjgwgN"]

private def idStartRuns : Array (Nat × String) := readRuns 1 idStartTable

def isIdStart (c : Char) : Bool := lookup idStartRuns c.toNat = some "Y"

private def idContinueTable : List String :=
  ["1cNaY7NqY4NYNqY1bNYaNYNY2NY5NnYNvYNcqY4NcYeN5Y7NYNYhN39YN2Y2N4YNY6N5YNYNkYN2bYN3vYN5Y2N4mYN1",
   "2Y2NY6N15Y8N19YNYN2YN2YNY8NrY4N4YtNbY5N22Y4N2uYN8Y2NaYNjY2NYgN1nY2N2tYeN1iY4NY2NY2N1aYiNsY4N",
   "bY5NoYN6Y9N22YN3lY2NaYNjYN8Y2N2Y2NmYN7YNY3N4Y2N9Y2N2Y2N4Y8NY4N2YN5Y2NcYaNYNY2N3YN6Y4N2Y2NmYN",
   "7YN2YN2YN2Y2NYN5Y4N2Y2N3Y3NY7N4YNY7NgYbN3YN9YN3YNmYN7YN2YN5Y2NaYN3YN3Y2NYfN4Y2NaY9N7YN3YN8Y2",
   "N2Y2NmYN7YN2YN5Y2N9Y2N2Y2N3Y7N3Y4N2YN5Y2NaYNYgN2YN6Y3N3YN4Y3N2YNYN2Y3N2Y3N3Y3NcY4N5Y3N3YN4Y2",
   "NY6NYeNaYgNdYN3YNnYNgY2N9YN3YN4Y7N2YN3Y2NY2N4Y2NaYgN4YN8YN3YNnYNaYN5Y2N9YN3YN4Y7N2Y6N2YN4Y2N",
   "aYN3YcNdYN3YN1fYN3YN5Y5N4Y7N5Y2NaYaN6YN3YNiY3NoYN9YNY2N7Y3NY4N6YNYN8Y6NaY2N2YdN1mY5NfYNaY13N",
   "2YNYN5YNoYNYNnY2N5YNYN7YNaY2N4YwNYnN2Y6NaYbNYNYNY4NaYN10Y4NkYNiYN10Y9NY1lN22Y6N26Y2N12YNY5NY",
   "2N17YN99YN4Y2N7YNYN4Y2N15YN4Y2NxYN4Y2N7YNYN4Y2NfYN1lYN4Y2N1vY2N3Y9N9YeNgYgN2eY2N6Y3Nh8Y2NhYN",
   "qY5N23Y3NbY7NmY9NmYbNkYcNdYN3YN2YcN2cY3NY4N2Y2NaYxN3YNbY6N2hY7N17Y5N1yYaNvYNcY4NcYaN14Y2N5Yb",
   "N18Y4NqY6NbY11NsY4N1rYNtY2NbY6NaYdNY8NeYNgY1dN25Y3NaYhN9YcN38YcN1kY8NaY3N1dY2N9Y7N17Y2N3YgN3",
   "YN13Y5NeuY2N6Y2N12Y2N6Y2N8YNYNYNYNvY2N1hYN7YNY3N3YN7Y3N4Y2N6Y4NdY5N3YN7Y1uN2YjNYsNYdNYgNdY1f",
   "NdY4NY3NcYhNY4NY2NaYNY2N6Y6NYNYNYNgY2N4Y5N5Y4NYhN15Y22fN6dY6N9YcN12YNY5NY2N1kY7NYfNoY9N7YN7Y",
   "N7YN7YN7YN7YN7YN7YNwYedN3YpNfYN5Y2N5Y4N2eY2N7YN2iYN4Y5N17YN2mYhNwY1cNgYe8N534Y1sNh3hY1vN1aY2",
   "N7hY3NsYkN1cY4NaYN37Y11N9Y2N2vY2N1sY5N2YNYN5YoN1iY4NYjN1gYcN1yYaNaY6NoY3NYN1dY2N10YcNtY3N1tY",
   "eNbY6NvYN1jY9NeY2NaY6NnY3N21YoN3Y2NgY2N5YaN6Y2N6Y2N6Y9N7YN7YN17YNeY6N3fYN2Y2NaY6N8mcYcNnY4N1",
   "dY6isNa6Y2N2yY12N7YcN5Y5NcYNdYN5YNYN2YN2YN30YxNa3YiN1sY2N1iY14NcY4NgYgNgY3N2YoN3YwN5YN3rYjNa",
   "Y7NqY4NYNqYbN2hY3N6Y2N6Y2N6Y2N3YzNcYNqYNjYN2YNfY2NeYyN3fY1xN1hY3sNY3mNtY3N1dYfNYvNwYdNuY5N17",
   "Y5NuY2N10Y4N8YN5Y16N4eY2NaY6N10Y4N10Y4N14Y8N1gYcNbYNfYN7YN2YNbYNfYN7YN2Y1vN8nY9NmYaN8YoN6YN1",
   "6YN9Y1xN6Y2NYN18YN2Y3NY2NnYaNnY9NvY1tNjYN2YaNmYaNqY1yN1kY6N2Y1sN4YN2Y5N8YN3YNtY2N3Y4NYwNtY3N",
   "tYzN8YNuYpN1iYaNmYaNjYdNiY32N21Y1jN1fYdN1fYdN14Y8NaY92N16YN2Y3N2Y23NwYaNY8NxYvNmY16NlYrNnY9N",
   "1zYvNgY9N1oY7NYdNpY7NaY6N1hYNaY4N4Y8N10Y2NY9N1xY4N4YNdYNYzNiYN11Y6N4Y1qN7YNYN4YNfYNaY7N1nY5N",
   "aY6N4YN8Y2N2Y2NmYN7YN2YN5YNaY2N2Y2N3Y2NY6NY5N7Y2N7Y3N5Y3vN23Y5NaY4N4YuN1yYNY8NaY4mN1iY2N9YnN",
   "6YyN1tY3NYbNaY12N1lY7NaY1iNrY2NfY4NaY6N7Y55N1nY2tN22YlN8Y2NY2N8YN2YNuYN2Y2N9YcNaY1yN8Y2N1aY2",
   "N8YN2YrN1rY8NY8N22Y3NYiN21Y7bN9YN19YN9YfNaYoNuY2NmYNeY21N7YN2YN18Y3NYN2YN9Y8NaY6N6YN2YN11YN2",
   "YN6Y7NaY8mNnY9NhYN15Y3N5YdNaY2eNY27NpmY2uN33YhN5gY218N2pYfNtsYgNmY33eNg7Y6ntNftY7NvYNaY6N27Y",
   "NaY6NuY2N5YbN1jY9N4YcNaY9NlY5NjYj4N1sY3kN23Y4N1lY7NhY1sN2YN2YbN2YeN4qgY8NyeY16N9Y6w7N4YN7YN2",
   "YN83YfNYtN3Y2NYeN4Y8Nb0Y1s4N2zY5NdY3N9Y7NaY3N2Y3mpN1aY2NnYf2N5Y3N6Y8N8Y2N7YuN4Y44N3YcbN2dYN1",
   "zYN2Y2NY2N2Y2N4YNcYNYN7YN1tYN4Y2N8YN7YNsYN4YN5YNY3N7YN9gY2NpYNpYNvYNpYNvYNpYNvYNpYNvYNpYN8Y2",
   "N1eYe8N1jY4N1eY8NYeNYmN5YNfYuoNvY6N6Y5xN7YNhY2N7YN2YN5Y5N1qYxNY34N19Y3NeY2NaY4NY8xNvYhN1mYd2",
   "N16YkmN7YN4YN2YNfYN5hYbN7Y15N24Y4NaYx2N4YNrYN2YNY2NYNaYN4YNYNY6NY4NYNYNYN3YN2YNY2NYNYNYNYNYN",
   "2YNY2N4YN7YN4YN4YNYNaYNhY5N3YN5YNhY2lwNaYsmNwyoYwN37eY6N66Y2N4g2YeN5rlY2e7Nf2Y15uN3t7Y5N38gY",
   "f9e8N6oY47bkN"]

private def idContinueRuns : Array (Nat × String) := readRuns 1 idContinueTable

def isIdContinue (c : Char) : Bool := lookup idContinueRuns c.toNat = some "Y"

private def mathTable : List String :=
  ["17NYgN3YvNYtNYNY19NY4NY11NYvNYk8N3Y2NYqN2Y2N3YenN3Y559NYrN3YbNY3NYdNYeN4YlN5YbN5Y1tNdY4NY3N2",
   "Y4N5YiNY4NY2NaYNY2N6Y6NY3N2Y2N2YN3YN6Y3NeYNY1wNoYN6YN2Y4N2Y4NwYNY6N2YeN7gY8N4YkN2Y2iNYuNrYNY",
   "oNYbN7YcdN2YcNaY4N6Y4N2Y2N2Y3N5YeNYNY2N6YbN8Y5N2Y1lNYNYtN4Y9N3Y9cN1sY74Ne8Y1cNlY2N6Y1524NYmv",
   "N6YNY4iNYgN3YtNYNYtNYNY3nNY6N4Y15w3N2dYN1zYN2Y2NY2N2Y2N4YNcYNYN7YN1tYN4Y2N8YN7YNsYN4YN5YNY3N",
   "7YN9gY2N84Y2N1eY4cgN4YNrYN2YNY2NYNaYN4YNYNY6NY4NYNYNYN3YN2YNY2NYNYNYNYNYN2YNY2N4YN7YN4YN4YNY",
   "NaYNhY5N3YN5YNhY1gN2Yl5vyN"]

private def mathRuns : Array (Nat × String) := readRuns 1 mathTable

def isMath (c : Char) : Bool := lookup mathRuns c.toNat = some "Y"

private def dashTable : List String :=
  ["19NY124NY1fNY2tdNYslNY1l5N6Y1pNY13NYfNYauNY2dgNY2NYvN2Y4NYsNYceNYjNY33NY14lsN2Y11NYaNY4pNY33",
   "3NYme6qN"]

private def dashRuns : Array (Nat × String) := readRuns 1 dashTable

def isDash (c : Char) : Bool := lookup dashRuns c.toNat = some "Y"

private def hexDigitTable : List String :=
  ["1cNaY7N6YqN6Y1eaxNaY7N6YqN6Ymh89N"]

private def hexDigitRuns : Array (Nat × String) := readRuns 1 hexDigitTable

def isHexDigit (c : Char) : Bool := lookup hexDigitRuns c.toNat = some "Y"

private def ideographicTable : List String :=
  ["9hiN2YpN9YeN3YqtN534Y1sNg74YhkwNa6Y2N2yYn4aNYrN4qgY8NyeY16N9Y76vNb0Yf7oNwyoYwN37eY6N66Y2N4g2",
   "YeN5rlY2e7Nf2Y15uN3t7Y5N38gYjgwgN"]

private def ideographicRuns : Array (Nat × String) := readRuns 1 ideographicTable

def isIdeographic (c : Char) : Bool := lookup ideographicRuns c.toNat = some "Y"

private def emojiTable : List String :=
  ["zNY6NY5NaY33NY4NY68dNYcNY60NYmNY2iN6YfN2Ya7N2YcNY4mNYpNbY4N3Y5jNY6fN2YaNY9NY1mN4YN5Y9NY2NY2N",
   "2Y2NY4NY2NYN2Y2NY3NY3N2Y8N3Y5NYNY5NcYbN2Y2NYN2YNYiNY2N2YiN6YNYN2Y3N2Y5NY2N2Y4N2YbN2Y5N2Y2NY5",
   "N2YNYN2YkN2Y5N6YN4Y2NY4NY2NY2N6YNY2NYNYNY6NY3NY6NYaN2YfNY2NY4NYNY4N3YNYbN2Y1cN3Y9NYeNYeNYacN",
   "2YcvN3YjN2Y1fNY4NYyiNYcNYgpNYNY2fzeNY5mNY4gN2YcN2YeNY2NaY23NqYN2YnNYkNY2N9YlN2Y4uNyY2N34Y2N2",
   "YN3Y2N2bY2N3YN7bYN1rYbN6YNoY7N2Y2N8YcNY2N4Y2NY4N2YdN2Y2NY8N2Y9NY5N3YcN3Y8N3Y2NYNY4NY6NY3NY6N",
   "2eY1cN1yY5N8Y2N3Y4NaY3NYN2Y3NY2NaY6bNcY4NY7vN1bYNaYN55Y34NdY3N9Y7N1aYN7Y8NeY4N9Y7N9Yl3ifN"]

private def emojiRuns : Array (Nat × String) := readRuns 1 emojiTable

def isEmoji (c : Char) : Bool := lookup emojiRuns c.toNat = some "Y"

private def graphemeExtendTable : List String :=
  ["lcN34Y7nN7Y7bN19YNYN2YN2YNY20NbY1cNlYgNY2tN7Y2N6Y2N2YN4YzNYuNrY2jNbY1mN9Y9NYoN4YN9YN3YN5Y17N",
   "3Y1oN8Y16NoYNwY1jNYNY4N8Y4NY3N7YaN2YtNY1mNYNY2N4Y8NY9NYaN2YqNY2N2Y1lNY4N2Y4N2Y2N3Y3NYuN2Y3NY",
   "bN2Y1lNY4N5YN2Y4NYkN2YmN6YNY1mNYN2YN4Y8NY7N3YaN2YuNY1nNYNYcNY9NY14NY3NY1jNYN3Y5N3YN4Y7N2YbN2",
   "YtNY1mNY2NY2NY3NY5N2Y7N2YbN2YsN2Y1lN2YNY2N4Y8NY9NYaN2YtNY20NY4NY2N3YNY8NY29NY2N7YcN8Y2qNY2N9",
   "YbN7Y21N2YrNYNYNY1jNeYN5YN2Y5NbYN10Y9NY2uN4YN6YN2Y2N2YpN2Y4N3YgN4YdNY2N2Y6NYfNYjjN3YqaN3YtN2",
   "YuN2YuN2Y1sN2YN7Y8NY2NbY9NY19N3YNY39N2YyNY3aN3Y4N2Y9NY6N3Y63N2Y2NY1mNYN7YNYNY2N8Y6NaY2NY1cNv",
   "Y1dN4Y1cN7YNY5NY14N9YcN2YwN4Y2N2YN3Y1kNYN2Y3NYN3Y1mN8Y2N2Y48N3YNdYN7Y4NY6NY3N2Y5iN1sYekNY5fN",
   "xY2daN3Y3xNY2oNwYfeN6Y2xN2Yn9wN4YNaYwN2Y28N2Y7kNY3NY4NYpN2Y5NY47N2YqNiYdNY12N8YpNbY1aN3Y1cNY",
   "2N4Y2N2Y13NY1vN6Y2N2Y2N2YcNY8NY1bNY1fNYN3Y2N2Y5N2YNY16N2Y8NY6mNY2NY4NYfn4NYkhNgYgNgYa6N2YgtN",
   "Y6aNY45N5Y1aeN3YN2Y5N4Y14N3Y4NY4lN2YfxN4YarN2Y28N3Y1yNbY1dN4Y3fNY1iNfY15NY2N2YaN3Y1dN4Y2N2Y7",
   "NY1pN3Y10N5YN8Y1qNYcN2Y1gN9YaN4Y2NY2nN3Y2NYN2Y6NY2NY4dNY3N8YlN2Y1lN2YNYNYmNYeN7Y3N5Y5fN8Y2N3",
   "YNYnNY29NY2N6YNY2NYN2YN2Y6jNY2N4Y6N2YN2YrN2Y2dN8Y2NYN2Y2yNYNY2N6YNY2tN3Y2N4YN5Y77N9YN2Y6tNYa",
   "N2YNY4NY40N4Y2N2Y4NYwNaY14N6Y2N4Y8NY9N6Y2N3Y1aNdYN2YbaN7YN6YNY2aNmY2N7YN2YN2Y3eN6Y3NYN2YN7YN",
   "Y20N2Y3NYNY9nN2YbN2Y1gN5Y5NYNY459NY6NfYasaN5Y1nN7Yt4NY1rN4Y29NYf5kN2Y3mpN1aY2NnYf2NYN3Y4N5Y8",
   "N8Y2N7YuN4Y44N3Y1izN1jY4N1eY8NYeNYmN5YNfY11sN7YNhY2N7YN2YN5Y2sNY4gN7YafNY1pN4Ye4N4YrkN7Y31N7",
   "YgzbpN2oY3kN6oY47bkN"]

private def graphemeExtendRuns : Array (Nat × String) := readRuns 1 graphemeExtendTable

def isGraphemeExtend (c : Char) : Bool := lookup graphemeExtendRuns c.toNat = some "Y"

end Turnstile.Unicode
