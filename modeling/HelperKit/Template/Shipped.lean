import HelperKit.Text

/-!
# Shipped templates

The helper modules themselves, line by line.  Each ends with a line feed.
-/

namespace HelperKit.Template

/-- Matching on variants, and the error that ends a program. -/
def coreLines : List String :=
  ["export function match<T extends string, R = void>(",
   "  key: T,",
   "  cases: Record<T, () => R>",
   "): R \x7b",
   "  return cases[key]();",
   "\x7d",
   "",
   "export function vmatch<T extends \x7b variant: V \x7d, V extends string, R>(",
   "  v: T,",
   "  cases: \x7b [K in T[\"variant\"]]: (arg: Extract<T, \x7b variant: K \x7d>) => R \x7d",
   "): R \x7b",
   "  const fn = cases[v.variant];",
   "  if (!fn) \x7b",
   "    panic(`Unmatched variant: $\x7bv.variant\x7d`);",
   "  \x7d",
   "  return fn(v as Extract<T, \x7b variant: typeof v.variant \x7d>);",
   "\x7d",
   "",
   "export function panic(errorMessage: string): never \x7b",
   "  throw new Error(errorMessage);",
   "\x7d"]

/-- Capitalising a text by way of a result. -/
def exampleLines : List String :=
  ["import \x7b Result, ResultBuilder \x7d from \"./result.ts\";",
   "",
   "export function capitalizeFirstLetter(str: string): Result<string> \x7b",
   "  // Check if the input is a valid string",
   "  if (typeof str !== \"string\") \x7b",
   "    return ResultBuilder.err(\"Invalid input\");",
   "  \x7d",
   "",
   "  // Check if the input is an empty string",
   "  if (str.length === 0) \x7b",
   "    return ResultBuilder.ok(\"\");",
   "  \x7d",
   "",
   "  // Get the first character of the input and convert it to uppercase",
   "  const firstChar = str[0].toUpperCase();",
   "  // Get the rest of the input and keep it as it is",
   "  const rest = str.slice(1);",
   "  // Return the concatenation of the first character and the rest",
   "  return ResultBuilder.ok(firstChar + rest);",
   "\x7d"]

/-- Values that may be absent. -/
def optionLines : List String :=
  ["import \x7b panic \x7d from \"./core_functions.ts\";",
   "",
   "interface OptionMethods<T> \x7b",
   "  unwrap(): T | never;",
   "  unwrapOr(callback: () => T): T;",
   "  map<U>(callback: (someValue: T) => U): OptionT<U>;",
   "  letSome<U>(callback: (someValue: T) => U): U | void;",
   "  letNone<U>(callback: () => U): U | void;",
   "\x7d",
   "// Types that allow null-free type-safety",
   "export type NoneT<T> = \x7b variant: \"None\" \x7d & OptionMethods<T>;",
   "export type SomeT<T> = \x7b variant: \"Some\"; value: T \x7d & OptionMethods<T>;",
   "export type OptionT<T> = NoneT<T> | SomeT<T>;",
   "export type OptionRaw<T> = Omit<OptionT<T>, keyof OptionMethods<T>>;",
   "",
   "/**",
   " * Builder method that creates OptionT types",
   " */",
   "export const OptionBuilder = \x7b",
   "  /**",
   "   * Creates an instance of `OptionT<T>.None`. A replacement for `null`",
   "   * @returns A variant of `OptionT<T>` that signals that nothing has been set yet",
   "   */",
   "  none: function makeNone<T>(): OptionT<T> \x7b",
   "    return \x7b",
   "      variant: \"None\",",
   "      unwrap: () => panic(\"Value doesn't exist\"),",
   "      unwrapOr: (callback) => callback(),",
   "      map: (_callback) => OptionBuilder.none(),",
   "      letSome() \x7b\x7d,",
   "      letNone: (callback) => callback(),",
   "    \x7d as NoneT<T>;",
   "  \x7d,",
   "  some: function makeSome<T>(value: T): OptionT<T> \x7b",
   "    return \x7b",
   "      variant: \"Some\" as const,",
   "      value,",
   "      unwrap: () => value,",
   "      unwrapOr: () => value,",
   "      map: (callback) => OptionBuilder.some(callback(value)),",
   "      letSome: (callback) => callback(value),",
   "      letNone() \x7b\x7d,",
   "    \x7d as SomeT<T>;",
   "  \x7d,",
   "",
   "  /**",
   "   * Converts a nullable/undefinable value into an Option-typed value",
   "   * @param value a value that can be either of type T, null or undefined",
   "   * @returns A non-null, non-undefined version of T, which is either of variant `Some` or `None`",
   "   */",
   "  from: function convertNullable<T>(",
   "    value: T | null | undefined | OptionRaw<T>",
   "  ): OptionT<T> \x7b",
   "    if (value === null || value === undefined) \x7b",
   "      return OptionBuilder.none();",
   "    \x7d",
   "",
   "    // If it's a non-object, it couldn't have been an `Option` type before this",
   "    if (typeof value !== \"object\") \x7b",
   "      return OptionBuilder.some(value as T);",
   "    \x7d",
   "",
   "    // Check if it's an `OptionRaw` type",
   "    if (\"variant\" in value) \x7b",
   "      const candidate = value as OptionRaw<T>;",
   "",
   "      if (candidate.variant === \"None\") \x7b",
   "        return OptionBuilder.none();",
   "      \x7d else if (candidate.variant === \"Some\" && \"value\" in candidate) \x7b",
   "        return OptionBuilder.some(candidate.value as T);",
   "      \x7d else \x7b",
   "        /* In this case, we were wrong to think it was an OptionRaw type,",
   "               so we treat it as its own object type */",
   "        return OptionBuilder.some(value as T);",
   "      \x7d",
   "    \x7d",
   "",
   "    // If it's not an option type, then it must be another type of value",
   "    return OptionBuilder.some(value as T);",
   "  \x7d,",
   "\x7d;"]

/-- Values or errors. -/
def resultLines : List String :=
  ["import \x7b panic \x7d from \"./core_functions.ts\";",
   "",
   "// The Result Type, modeled after rust's error type",
   "interface ResultMethods<T, K extends string = string> \x7b",
   "  unwrap(): T | never;",
   "  unwrapOr(callback: () => T): T;",
   "",
   "  toString(): string;",
   "",
   "  // Maps the Ok variant into something else if it exists",
   "  map<U>(callback: (someValue: T) => U): Result<U>;",
   "",
   "  letOk<U>(callback: (okValue: T) => U): U | void;",
   "  letErr<U>(callback: (errValue: K) => U): U | void;",
   "\x7d",
   "export type Err<T, K> = ResultMethods<T> & \x7b",
   "  variant: \"Err\";",
   "  errKind: K;",
   "  dbgMessage?: unknown;",
   "\x7d;",
   "export type Ok<T> = ResultMethods<T> & \x7b variant: \"Ok\"; value: T \x7d;",
   "export type Result<T, K extends string = string> = Ok<T> | Err<T, K>;",
   "// Shorthand for Promise<Result<>>",
   "export type PResult<T, K extends string = string> = Promise<Result<T, K>>;",
   "",
   "export type ErrRaw<T, K extends string = string> = Omit<",
   "  Err<T, K>,",
   "  keyof ResultMethods<T, K>",
   ">;",
   "export type OkRaw<T> = Omit<Ok<T>, keyof ResultMethods<T>>;",
   "export type ResultRaw<T, K extends string = string> = ErrRaw<T, K> | OkRaw<T>;",
   "",
   "// Shorthand for Promise<ResultRaw<>>",
   "export type PResultRaw<T, K extends string = string> = Promise<ResultRaw<T, K>>;",
   "",
   "export const ResultBuilder = \x7b",
   "  err: function giveErr<T, U extends string, V = undefined | unknown>(",
   "    message: U,",
   "    dbgMessage?: V",
   "  ): Err<T, U> \x7b",
   "    const finValue: Err<T, U> = \x7b",
   "      variant: \"Err\",",
   "      errKind: message,",
   "",
   "      unwrap: () => panic(message),",
   "      unwrapOr: (callback) => callback(),",
   "",
   "      map: (_callback) => ResultBuilder.err(message),",
   "",
   "      letErr: (callback) => callback(message),",
   "      letOk(_callback) \x7b\x7d,",
   "",
   "      toString: () =>",
   "        \"\".concat(",
   "          `ErrorState: $\x7bmessage\x7d`,",
   "          dbgMessage ? `\\nDebugMessage: $\x7bJSON.stringify(dbgMessage)\x7d` : \"\"",
   "        ),",
   "    \x7d;",
   "",
   "    if (dbgMessage) \x7b",
   "      finValue.dbgMessage = dbgMessage;",
   "    \x7d",
   "    return finValue;",
   "  \x7d,",
   "",
   "  ok: function makeOk<T>(value: T): Ok<T> \x7b",
   "    return \x7b",
   "      variant: \"Ok\",",
   "      value,",
   "",
   "      unwrap: () => value,",
   "      unwrapOr: (_callback) => value,",
   "",
   "      map: (callback) => ResultBuilder.ok(callback(value)),",
   "",
   "      letOk: (callback) => callback(value),",
   "      letErr() \x7b\x7d,",
   "    \x7d;",
   "  \x7d,",
   "\x7d;"]

/-- Readers of data and documents, which need a remote module. -/
def parsersLines : List String :=
  ["// NOTE: Remove this if it's running in client-side/non-deno code",
   "import \x7b DOMParser, Document \x7d from \"https://deno.land/x/deno_dom@v0.1.45/deno-dom-wasm.ts\";",
   "",
   "import \x7b ResultBuilder, Result, Err \x7d from \"./result.ts\";",
   "import \x7b vmatch \x7d from \"./core_functions.ts\";",
   "",
   "// Base types, derived from JavaScript",
   "export type DataType =",
   "  | \"string\"",
   "  | \"number\"",
   "  | \"boolean\"",
   "  | \"object\"",
   "  | \"undefined\"",
   "  | \"function\"",
   "  | \"symbol\"",
   "  | \"bigint\"",
   "  | \"array\";",
   "",
   "// Potential Errors that can occur when casting an object into a type",
   "type ObjectValidationError =",
   "  | \"ParseError\"",
   "  | \"KeyMismatchError\"",
   "  | \"TypeError\"",
   "  | \"DataTypeSpecificationError\";",
   "",
   "",
   "// Potential errors that can occur when converting an HTML string into a Document",
   "export type HTMLParseError = \"StringParseFailed\" | \"QueryParseFailed\";",
   "",
   "export const parsers = \x7b",
   "  parseHtml: function parseHTMLString_rs(",
   "    htmlString: string",
   "  ): Result<Document, HTMLParseError> \x7b",
   "    const parser = new DOMParser();",
   "    const foundDoc = parser.parseFromString(htmlString, \"text/html\");",
   "    if (!foundDoc) \x7b",
   "      return ResultBuilder.err(\"StringParseFailed\");",
   "    \x7d",
   "    const errorNode = foundDoc.querySelector(\"parsererror\");",
   "",
   "    if (errorNode) \x7b",
   "      return ResultBuilder.err(\"QueryParseFailed\");",
   "    \x7d",
   "",
   "    return ResultBuilder.ok(foundDoc);",
   "  \x7d,",
   "",
   "  parseJSON: function parseJSONString_rs<T>(jsonString: string): Result<T> \x7b",
   "    try \x7b",
   "      const parsedData = JSON.parse(jsonString) as T;",
   "",
   "      return ResultBuilder.ok(parsedData);",
   "    \x7d catch (error) \x7b",
   "      // Handle parsing errors",
   "      const message = typeof error === \"string\" ? error : JSON.stringify(error);",
   "      return ResultBuilder.err(message);",
   "    \x7d",
   "  \x7d,",
   "",
   "  /**",
   "   * Parses an object which enforces type-validation before casting it",
   "   * @param obj: An object with keys and values, the equivalent of TypeScript's `Record` type",
   "   * @param fields: An array of fieldNames and their datatypes, allows nesting",
   "   * @returns A runtime-safe type-casted version of T",
   "   */",
   "  parseObject: function validateFields<T>(",
   "    obj: object,",
   "    fields: [keyof T, DataType | [string, DataType][]][]",
   "  ): Result<T, ObjectValidationError> \x7b",
   "    for (const [field, dataType] of fields) \x7b",
   "      // Check for correct structure of 'fields' parameter",
   "      if (Array.isArray(dataType) && dataType.length === 0) \x7b",
   "        return ResultBuilder.err(",
   "          \"DataTypeSpecificationError\",",
   "          `DataType for key: $\x7bString(",
   "            field",
   "          )\x7d is an empty array, which is not allowed.`",
   "        );",
   "      \x7d",
   "",
   "      // Check if the field is present in the object",
   "      if (!(field in obj)) \x7b",
   "        return ResultBuilder.err(",
   "          \"KeyMismatchError\",",
   "          `Missing key: $\x7bString(field)\x7d`",
   "        );",
   "      \x7d",
   "",
   "      // Check if the field is of the correct type",
   "      // @ts-ignore TS Type inference cannot catch that it's fine",
   "      const currValue = obj[field];",
   "",
   "      const result: Result<T, ObjectValidationError> = vmatch(",
   "        isOfType(currValue, dataType),",
   "        \x7b",
   "          Ok: (\x7b value: allTypesMatch \x7d) => \x7b",
   "            if (!allTypesMatch) \x7b",
   "              return ResultBuilder.err(",
   "                \"TypeError\",",
   "                `Incorrect type for key: $\x7bString(",
   "                  field",
   "                )\x7d. Expected $\x7bdataType\x7d, got $\x7btypeof currValue\x7d`",
   "              );",
   "            \x7d",
   "            return ResultBuilder.ok(obj as T);",
   "          \x7d,",
   "",
   "          // T isn't inserted over here, so casting it from",
   "          // `Err<boolean, ObjectValidationError>` is fine",
   "          Err: (errorValue) => errorValue as Err<T, ObjectValidationError>,",
   "        \x7d",
   "      );",
   "",
   "      if (result.variant === \"Err\") \x7b",
   "        return result;",
   "      \x7d",
   "    \x7d",
   "",
   "    try \x7b",
   "      // If all checks pass, attempt to cast the object to type T",
   "      const typedObject = obj as T;",
   "      return ResultBuilder.ok(typedObject);",
   "    \x7d catch (error) \x7b",
   "      return ResultBuilder.err(\"ParseError\", error);",
   "    \x7d",
   "  \x7d,",
   "\x7d;",
   "",
   "/**",
   " * Checks if the `value` is of the specified type",
   " * @param value an object to check the datatype against",
   " * @param dataType the datatype to refer to",
   " * @returns A result, success indicates that type-parsing has been successful and vice versa",
   " *          the boolean indicates whether the types match or not",
   " */",
   "function isOfType(",
   "  value: object,",
   "  dataType: DataType | [string, DataType][]",
   "): Result<boolean, ObjectValidationError> \x7b",
   "  if (Array.isArray(dataType)) \x7b",
   "    // If dataType is an array of [string, DataType], treat it as a specification for a nested object",
   "    if (dataType.length === 0) \x7b",
   "      return ResultBuilder.ok(false); // Empty array for dataType is not allowed",
   "    \x7d",
   "    if (typeof value !== \"object\" || value === null) \x7b",
   "      return ResultBuilder.ok(false); // If the value is not an object, it does not match the specification",
   "    \x7d",
   "    // Recursively validate the nested object",
   "    const result = parsers.parseObject(value, dataType);",
   "    return vmatch(result, \x7b",
   "      // The types are matching, inform this to the parent function",
   "      Ok: () => ResultBuilder.ok(true),",
   "",
   "      // Propagate the error to the parent function",
   "      Err: (\x7b errKind, dbgMessage \x7d) => ResultBuilder.err(errKind, dbgMessage),",
   "    \x7d);",
   "  \x7d else \x7b",
   "    // deno-lint-ignore valid-typeof",
   "    return ResultBuilder.ok(typeof value === dataType);",
   "  \x7d",
   "\x7d"]

/-- The file names of the shipped templates and their lines. -/
def shipped : List (String × List String) :=
  [("core.ts", coreLines), ("example.ts", exampleLines), ("option.ts", optionLines),
   ("result.ts", resultLines), ("parsers.ts", parsersLines)]

/-- Lines as the text of a file. -/
def textOf (lines : List String) : Text :=
  lines.flatMap fun line => Text.ofString line ++ [.char '\n']

end HelperKit.Template
